import Hyperfiction.CharSet.Case
import Hyperfiction.CharSet.Named
import Hyperfiction.Pattern.Basic

/-!
# Flags of patterns

The flags `i m s U u x R` hold from where they are set to the end of the group. They decide what a
character, a class of one letter, a point and the anchors `^` and `$` match, and whether blanks and
comments in a pattern count. Without `u` a pattern knows the classes of ASCII only, and a set that holds
anything else is refused, because it would take single bytes out of characters.
-/

namespace Hyperfiction.Pattern

/-- What is switched on at a place of a pattern. -/
structure Flags where
  ignoreCase : Bool := false
  multiLine : Bool := false
  dotAll : Bool := false
  /-- Repetitions are lazy, and greedy with a question mark. -/
  swapGreed : Bool := false
  unicode : Bool := true
  /-- A carriage return ends a line too. -/
  anyLineEnd : Bool := false
  /-- Blanks and comments in the pattern do not count. -/
  spaced : Bool := false

/-- The flag of a letter, set or cleared. -/
def Flags.set? (f : Flags) (c : Char) (on : Bool) : Option Flags :=
  match c with
  | 'i' => some { f with ignoreCase := on }
  | 'm' => some { f with multiLine := on }
  | 's' => some { f with dotAll := on }
  | 'U' => some { f with swapGreed := on }
  | 'u' => some { f with unicode := on }
  | 'R' => some { f with anyLineEnd := on }
  | 'x' => some { f with spaced := on }
  | _ => none

/-! ### Blanks and comments -/

/-- The text behind blanks and comments, each from `#` to the end of its line; `inComment` tells that the
text begins in one. -/
def dropSpace (inComment : Bool) : Text → Text
  | [] => []
  | c :: t =>
    if inComment then dropSpace (c != '\n') t
    else if Text.isBlank c then dropSpace false t
    else if c = '#' then dropSpace true t
    else c :: t

theorem length_dropSpace_le (inComment : Bool) (t : Text) :
    (dropSpace inComment t).length ≤ t.length := by
  induction t generalizing inComment with
  | nil => simp [dropSpace]
  | cons c t ih =>
    have step (b : Bool) : (dropSpace b t).length ≤ (c :: t).length :=
      Nat.le_trans (ih b) (by simp)
    unfold dropSpace
    split
    · exact step _
    split
    · exact step _
    split
    · exact step _
    · exact Nat.le_refl _

/-- The text without what does not count in front. -/
def Flags.skip (f : Flags) (t : Text) : Text := if f.spaced then dropSpace false t else t

theorem Flags.length_skip_le (f : Flags) (t : Text) : (f.skip t).length ≤ t.length := by
  unfold Flags.skip
  split
  · exact length_dropSpace_le false t
  · exact Nat.le_refl _

/-- The first character that counts; the start of one comment is passed over, and not what stands in it. -/
def Flags.peek? (f : Flags) (t : Text) : Option Char :=
  if f.spaced then
    let rest := match Text.trimStart t with
      | '#' :: u => Text.trimStart u
      | u => u
    rest.head?.or t.head?
  else t.head?

/-- The characters in front that have a property, and the text behind them. What does not count is left
out behind each. -/
def Flags.takeWhile (f : Flags) (p : Char → Bool) : Text → Text × Text
  | [] => ([], [])
  | c :: t =>
    if p c then
      let (cs, rest) := f.takeWhile p (f.skip t)
      (c :: cs, rest)
    else ([], c :: t)
termination_by t => t.length
decreasing_by
  have := f.length_skip_le t
  simp only [List.length_cons]
  omega

/-! ### What is matched -/

/-- A set with all cases of its characters, if case does not count. -/
def Flags.fold (f : Flags) (s : CharSet) : CharSet :=
  if f.ignoreCase then (if f.unicode then s.foldCase else s.foldAscii) else s

/-- A set that may stand in a pattern. -/
def Flags.checked (f : Flags) (s : CharSet) : Except PatternError CharSet :=
  if f.unicode || s.isAscii then .ok s else .error .invalidBytes

/-- A set under flags, or what is outside of it. -/
def Flags.named (f : Flags) (negated : Bool) (s : CharSet) : Except PatternError CharSet :=
  f.checked (if negated then (f.fold s).compl else f.fold s)

/-- The pattern of a character. -/
def Flags.literal (f : Flags) (c : Char) : Pattern := Pattern.ofSet (f.fold (CharSet.one c))

/-- The set of a class of one letter; capital letters stand for what is outside. -/
def Flags.letterClass (f : Flags) (c : Char) : Except PatternError CharSet :=
  let s := match c.toLower with
    | 'd' => if f.unicode then CharSet.decimalNumbers else CharSet.asciiDigits
    | 's' => if f.unicode then CharSet.blank else CharSet.asciiBlank
    | _ => if f.unicode then CharSet.word else CharSet.asciiWord
  f.checked (if c.isUpper then s.compl else s)

/-- The characters that a point matches. -/
def Flags.dot (f : Flags) : Except PatternError CharSet :=
  f.checked
    (if f.dotAll then CharSet.all
    else if f.anyLineEnd then (CharSet.ofCodes [0xA, 0xD]).compl
    else (CharSet.one '\n').compl)

/-- The anchor of `^`. -/
def Flags.lineStart (f : Flags) : Anchor :=
  if f.multiLine then (if f.anyLineEnd then .anyLineStart else .lineStart) else .textStart

/-- The anchor of `$`. -/
def Flags.lineEnd (f : Flags) : Anchor :=
  if f.multiLine then (if f.anyLineEnd then .anyLineEnd else .lineEnd) else .textEnd

end Hyperfiction.Pattern
