import Hyperfiction.Passage

/-!
# A story to try

The records of a short story about a mine, which uses most of the markup.
-/

namespace Hyperfiction

namespace Lantern

/-- A record with its body given line by line. -/
def record (name : String) (tags : List String) (lines : List String) : PassageRecord :=
  ⟨name.toList, tags.map (·.toList), ['\n'].intercalate (lines.map (·.toList))⟩

/-- The records of the story. -/
def records : List PassageRecord := [
  record "Status" ["header"]
    ["Oil: (print: $oil) | Coins: (print: $coins)"],
  record "Start" []
    ["(set: $oil to 3, $coins to 0)(set: $pack to (a: \"lantern\"))" ++
      "You stand at the mouth of the old mine. Your lantern hisses.",
      "[[Climb down->Shaft]]",
      "[[Walk away|Home]]"],
  record "Shaft" ["mine", "dark"]
    ["(set: $oil to it - 1)(if: $oil < 1)[The lantern gutters out. You feel your way back up.",
      "[[Surface->Start]]](else:)[The flame shows " ++
        "(print: (either: \"rusted rails\", \"a dropped pick\", \"old boot prints\")).",
      "(visited: \"Gallery\")[You know the gallery lies ahead.]",
      "[[Go deeper->Gallery]]",
      "[[Climb up->Start]]]"],
  record "Gallery" ["mine", "deep"]
    ["(set: $found to (random: 1, 5))(set: $coins to $coins + $found)" ++
      "You sift the gravel and find $found coins.",
      "(if: $coins >= 10)[Your purse is heavy now.](else-if: $coins > 0)[A modest haul.]",
      "(if: $pack contains \"rope\")[[[Rappel into the pit->Pit]]]",
      "[[Back to the shaft->Shaft]]"],
  record "Pit" ["mine", "deep", "dark"]
    ["(if: (visited: where its tags contains \"deep\"))[Deeper than you have ever been.]",
      "[[Climb out->Gallery]]"],
  record "Home" []
    ["(if: $coins > 0)[You walk home with (print: $coins) coins.]" ++
      "(else:)[You walk home empty-handed.]",
      "[[Try again->Start]]"]]

end Lantern

end Hyperfiction
