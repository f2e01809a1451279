import Hyperfiction.Proofs.Render.Drafted
import Hyperfiction.Story.Play

/-!
# Passages that are kept

A story is told by answering requests, and all answers share one stream of random words and one table of
kept passages. What one answer does to the table is said once (`Story.answered`): it leaves the table
alone, or it keeps a passage under a name that had none, compiled at that moment and told in the same
answer. Along a whole run kept passages therefore stay as they are (`Story.get?_kept_answers`), and each
request with nothing given is answered by what is kept in the end (`Story.reply_answers`).
`Story.cacheStable` puts together what this means for the reader of a story.
-/

namespace Hyperfiction

/-! ### Requests -/

/-- What a story is asked for while it is told. -/
inductive Request where
  | passage (name : Text) (snapshot : Option Snapshot) (visits : Option (List Text))
  /-- The passage that the story opens with. -/
  | start (snapshot : Option Snapshot) (visits : Option (List Text))
  | header (snapshot : Option Snapshot)
  | footer (snapshot : Option Snapshot)

/-- What a request is answered with. -/
inductive Reply where
  | passage (result : Except StoryError Passage)
  /-- The text of a header or footer, if the story has one. -/
  | frame (text : Option Text)

namespace Story

/-- Answers a request. -/
def answer (s : Story) (words : Words) : Request → Playing Reply
  | .passage name snapshot visits => do return .passage (← s.passage words name snapshot visits)
  | .start snapshot visits => do return .passage (← s.startPassage words snapshot visits)
  | .header snapshot => do return .frame (← s.headerText words snapshot)
  | .footer snapshot => do return .frame (← s.footerText words snapshot)

/-- Answers requests in order. -/
def answers (s : Story) (words : Words) (requests : List Request) : Playing (List Reply) :=
  requests.mapM (s.answer words)

/-- The name of the passage that is asked for with neither a snapshot nor visits. -/
def plainName? (s : Story) : Request → Option Text
  | .passage name none none => some name
  | .start none none => s.start?
  | _ => none

/-- The passage of a record for no variables and no visits, after `used` random words. -/
def compiledPlain (s : Story) (words : Words) (record : PassageRecord) (used : Nat) : Passage × Nat :=
  s.compiler.compile (s.compiler.setting [] s.tags words) record Table.empty used

variable {s : Story} {words : Words} {name : Text} {record : PassageRecord} {play : Play}

/-! ### One passage -/

/-- A passage that there is none of fails with its name. -/
theorem passage_unknown (h : s.passages.get? name = none) (snapshot : Option Snapshot)
    (visits : Option (List Text)) :
    s.passage words name snapshot visits = pure (.error (.passageNotFound name)) := by
  simp only [passage, h]

/-- A kept passage is told without any further effect. -/
theorem passage_of_kept (h : s.passages.get? name = some record) {p : Passage}
    (hkept : play.kept.get? name = some p) :
    (s.passage words name none none).run play = (.ok p, play) := by
  simp only [passage, h, Option.isNone_none, Bool.and_self, if_true, StateT.run_bind, StateT.run_get,
    pure_bind, hkept]
  rfl

/-- A passage that is not kept is compiled, and kept. -/
theorem passage_of_not_kept (h : s.passages.get? name = some record)
    (hkept : play.kept.get? name = none) :
    (s.passage words name none none).run play =
      (.ok (s.compiledPlain words record play.used).1,
        ⟨(s.compiledPlain words record play.used).2,
          play.kept.insert name (s.compiledPlain words record play.used).1⟩) := by
  simp only [passage, h, Option.isNone_none, Bool.and_self, if_true, StateT.run_bind, StateT.run_get,
    pure_bind, hkept]
  rfl

/-- Where a snapshot or visits are given the passage is compiled and not kept. -/
theorem passage_of_given (h : s.passages.get? name = some record) {snapshot : Option Snapshot}
    {visits : Option (List Text)} (hgiven : (snapshot.isNone && visits.isNone) = false) :
    s.passage words name snapshot visits = (do
      return .ok (← s.compiled words record (snapshot.getD Table.empty) (visits.getD []))) := by
  simp only [passage, h, hgiven]
  rfl

/-- A passage that needs no words to be compiled is the same at every place of the stream. -/
private theorem compiledPlain_of_idle {used : Nat} (h : (s.compiledPlain words record used).2 = used)
    (n : Nat) : s.compiledPlain words record n = ((s.compiledPlain words record used).1, n) :=
  s.compiler.compile_steady _ record Table.empty h n

/-- A passage that draws nothing is compiled plain, and leaves the play as it was. -/
private theorem passage_of_idle (h : s.passages.get? name = some record) {used : Nat}
    (hidle : (s.compiledPlain words record used).2 = used) (play : Play) :
    (s.passage words name (some Table.empty) (some [])).run play =
      (.ok (s.compiledPlain words record used).1, play) := by
  have hnow := compiledPlain_of_idle hidle play.used
  have hcompiled : (s.compiled words record Table.empty []).run play =
      ((s.compiledPlain words record play.used).1,
        { play with used := (s.compiledPlain words record play.used).2 }) := rfl
  rw [passage_of_given h rfl, StateT.run_bind]
  dsimp only [Option.getD_some]
  rw [hcompiled, hnow]
  rfl

/-! ### One answer -/

/-- A computation that neither looks at the kept passages nor changes them. -/
def Aside {α : Type} (x : Playing α) : Prop :=
  ∀ play kept, x.run { play with kept := kept } =
    ((x.run play).1, { (x.run play).2 with kept := kept })

/-- What is done aside leaves the kept passages as they were. -/
theorem Aside.kept_eq {α : Type} {x : Playing α} (h : Aside x) (play : Play) :
    (x.run play).2.kept = play.kept :=
  congrArg (·.2.kept) (h play play.kept)

private theorem Aside.pure {α : Type} (a : α) : Aside (pure a : Playing α) := fun _ _ => rfl

private theorem Aside.map {α β : Type} {x : Playing α} (h : Aside x) (f : α → β) :
    Aside (do return f (← x)) := by
  intro play kept
  simp only [StateT.run_bind, h play kept]
  rfl

private theorem aside_compiled (p : PassageRecord) (snapshot : Snapshot) (visits : List Text) :
    Aside (s.compiled words p snapshot visits) :=
  fun _ _ => rfl

private theorem aside_frameText (p? : Option PassageRecord) (snapshot : Option Snapshot) :
    Aside (p?.mapM fun p => s.frameText words p snapshot) := by
  cases p? with
  | none => exact .pure none
  | some p => exact fun _ _ => rfl

/-- A passage with a snapshot or visits of its own is made aside. -/
private theorem aside_passage {snapshot : Option Snapshot} {visits : Option (List Text)}
    (hgiven : (snapshot.isNone && visits.isNone) = false) (name : Text) :
    Aside (s.passage words name snapshot visits) := by
  cases h : s.passages.get? name with
  | none =>
    rw [passage_unknown h]
    exact .pure _
  | some record =>
    rw [passage_of_given h hgiven]
    exact (aside_compiled _ _ _).map _

/-- A request with nothing given asks for the passage of its name. -/
theorem answer_plain {request : Request} (h : s.plainName? request = some name) :
    s.answer words request = (do return .passage (← s.passage words name none none)) := by
  cases request with
  | passage other snapshot visits =>
    cases snapshot <;> cases visits <;> simp only [plainName?, reduceCtorEq, Option.some.injEq] at h
    rw [h, answer]
  | start snapshot visits =>
    cases snapshot <;> cases visits <;> simp only [plainName?, reduceCtorEq] at h
    rw [answer, startPassage, h]
  | header snapshot => cases h
  | footer snapshot => cases h

/-- **Requests for which something is given**, and those for headers and footers, have nothing to do
with the kept passages. -/
theorem answer_aside {request : Request} (h : s.plainName? request = none) :
    Aside (s.answer words request) := by
  cases request with
  | passage name snapshot visits =>
    have hgiven : (snapshot.isNone && visits.isNone) = false := by
      cases snapshot <;> cases visits <;> simp_all [plainName?]
    exact (aside_passage hgiven name).map _
  | start snapshot visits =>
    refine Aside.map ?_ _
    cases hstart : s.start? with
    | none =>
      rw [startPassage, hstart]
      exact .pure _
    | some name =>
      have hgiven : (snapshot.isNone && visits.isNone) = false := by
        cases snapshot <;> cases visits <;> simp_all [plainName?]
      rw [startPassage, hstart]
      exact aside_passage hgiven name
  | header snapshot => exact (aside_frameText s.header? snapshot).map _
  | footer snapshot => exact (aside_frameText s.footer? snapshot).map _

/-- What an answer can come to, with what it leaves behind. -/
inductive Answered (s : Story) (words : Words) (request : Request) (play : Play) : Reply × Play → Prop
  | aside (hname : s.plainName? request = none) (reply : Reply) {after : Play}
      (hkept : after.kept = play.kept) : Answered s words request play (reply, after)
  | unknown {name : Text} (hname : s.plainName? request = some name)
      (h : s.passages.get? name = none) :
      Answered s words request play (.passage (.error (.passageNotFound name)), play)
  | served {name : Text} {record : PassageRecord} {p : Passage}
      (hname : s.plainName? request = some name) (h : s.passages.get? name = some record)
      (hkept : play.kept.get? name = some p) :
      Answered s words request play (.passage (.ok p), play)
  | fresh {name : Text} {record : PassageRecord} {p : Passage} {used : Nat}
      (hname : s.plainName? request = some name) (h : s.passages.get? name = some record)
      (hkept : play.kept.get? name = none)
      (hp : s.compiledPlain words record play.used = (p, used)) :
      Answered s words request play (.passage (.ok p), ⟨used, play.kept.insert name p⟩)

/-- **One answer**: the cases of `Answered` are all there are. -/
theorem answered (s : Story) (words : Words) (request : Request) (play : Play) :
    Answered s words request play ((s.answer words request).run play) := by
  cases hname : s.plainName? request with
  | none => exact .aside hname _ ((answer_aside hname).kept_eq play)
  | some name =>
    rw [answer_plain hname, StateT.run_bind]
    cases h : s.passages.get? name with
    | none =>
      rw [passage_unknown h]
      exact .unknown hname h
    | some record =>
      cases hkept : play.kept.get? name with
      | some p =>
        rw [passage_of_kept h hkept]
        exact .served hname h hkept
      | none =>
        rw [passage_of_not_kept h hkept]
        exact .fresh hname h hkept rfl

/-! ### What answers keep -/

/-- Kept passages are those of their records, compiled for no variables and no visits. -/
def Genuine (s : Story) (words : Words) (play : Play) : Prop :=
  ∀ name p, play.kept.get? name = some p →
    ∃ record used, s.passages.get? name = some record ∧ (s.compiledPlain words record used).1 = p

/-- **An answer keeps what is kept genuine.** -/
private theorem Answered.genuine {request : Request} {result : Reply × Play}
    (h : Answered s words request play result) (hplay : s.Genuine words play) :
    s.Genuine words result.2 := by
  cases h with
  | aside hname reply hkept =>
    intro name p hp
    rw [hkept] at hp
    exact hplay name p hp
  | unknown | served => exact hplay
  | @fresh name record p used hname h hkept hp =>
    intro other q hq
    rw [Table.get?_insert] at hq
    split at hq
    · rename_i heq
      obtain rfl := Option.some.inj hq
      exact ⟨record, play.used, heq ▸ h, by rw [hp]⟩
    · exact hplay other q hq

/-- A kept passage stays. -/
private theorem Answered.get?_kept {request : Request} {result : Reply × Play}
    (h : Answered s words request play result) {p : Passage} (hp : play.kept.get? name = some p) :
    result.2.kept.get? name = some p := by
  cases h with
  | aside hname reply hkept => rw [hkept, hp]
  | unknown | served => exact hp
  | @fresh other record q used hname h hkept hq =>
    have hne : name ≠ other := by
      rintro rfl
      rw [hp] at hkept
      cases hkept
    rw [Table.get?_insert, if_neg hne, hp]

/-- What a request with nothing given is answered when the kept passages are those of `kept`. -/
def plainReply (s : Story) (kept : Table Passage) (name : Text) : Option Reply :=
  match s.passages.get? name with
  | none => some (.passage (.error (.passageNotFound name)))
  | some _ => (kept.get? name).map fun p => .passage (.ok p)

/-- A request with nothing given is answered by what is kept behind it. -/
private theorem Answered.reply {request : Request} {result : Reply × Play}
    (h : Answered s words request play result) (hplain : s.plainName? request = some name) :
    s.plainReply result.2.kept name = some result.1 := by
  cases h with
  | aside hname reply hkept =>
    rw [hname] at hplain
    cases hplain
  | unknown hname h =>
    obtain rfl := Option.some.inj (hname.symm.trans hplain)
    simp only [plainReply, h]
  | served hname h hkept =>
    obtain rfl := Option.some.inj (hname.symm.trans hplain)
    simp only [plainReply, h, hkept, Option.map_some]
  | fresh hname h hkept hp =>
    obtain rfl := Option.some.inj (hname.symm.trans hplain)
    simp only [plainReply, h, Table.get?_insert, if_true, Option.map_some]

/-! ### Runs -/

/-- Requests are answered one after the other. -/
private theorem run_answers_cons (request : Request) (requests : List Request) (play : Play) :
    (s.answers words (request :: requests)).run play =
      let first := (s.answer words request).run play
      let rest := (s.answers words requests).run first.2
      (first.1 :: rest.1, rest.2) := by
  rw [answers, List.mapM_cons]
  rfl

/-- **Kept passages stay** as they are, whatever is asked for. -/
theorem get?_kept_answers (requests : List Request) {p : Passage}
    (hp : play.kept.get? name = some p) :
    ((s.answers words requests).run play).2.kept.get? name = some p := by
  induction requests generalizing play with
  | nil => exact hp
  | cons request requests ih =>
    rw [run_answers_cons]
    exact ih ((answered s words request play).get?_kept hp)

/-- Any run of requests keeps what is kept genuine. -/
theorem genuine_answers (requests : List Request) (hplay : s.Genuine words play) :
    s.Genuine words ((s.answers words requests).run play).2 := by
  induction requests generalizing play with
  | nil => exact hplay
  | cons request requests ih =>
    rw [run_answers_cons]
    exact ih ((answered s words request play).genuine hplay)

/-- A reply from what is kept stays the same when more is kept. -/
private theorem plainReply_mono {kept later : Table Passage}
    (h : ∀ p, kept.get? name = some p → later.get? name = some p) {reply : Reply}
    (hreply : s.plainReply kept name = some reply) : s.plainReply later name = some reply := by
  unfold plainReply at hreply ⊢
  split at hreply
  · exact hreply
  · obtain ⟨p, hp, rfl⟩ := Option.map_eq_some_iff.mp hreply
    rw [h p hp]
    rfl

/-- **Every request with nothing given** is answered by what is kept at the end of the run. -/
theorem reply_answers (requests : List Request) {i : Nat} {request : Request}
    (hi : requests[i]? = some request) (hplain : s.plainName? request = some name) :
    ∃ reply, ((s.answers words requests).run play).1[i]? = some reply ∧
      s.plainReply ((s.answers words requests).run play).2.kept name = some reply := by
  induction requests generalizing play i with
  | nil => simp at hi
  | cons first requests ih =>
    rw [run_answers_cons]
    cases i with
    | zero =>
      obtain rfl : first = request := by simpa using hi
      refine ⟨_, rfl, plainReply_mono (fun p hp => ?_) ((answered s words first play).reply hplain)⟩
      exact get?_kept_answers requests hp
    | succ i => exact ih (by simpa using hi)

/-! ### The whole -/

/-- What the kept passages of a story come to, after some requests to a story that has kept none. -/
structure CacheStable (s : Story) (words : Words) (requests : List Request) (replies : List Reply)
    (play : Play) : Prop where
  /-- All requests for a name with nothing given have one reply. It is a passage if the story has one
  of the name, and is kept then. -/
  same : ∀ name, ∃ result : Except StoryError Passage, (result.isOk ↔ s.contains name) ∧
    ∀ i : Nat, (requests[i]?).bind s.plainName? = some name →
      replies[i]? = some (.passage result) ∧ ∀ p, result = .ok p → play.kept.get? name = some p
  /-- A kept passage is told and draws no words. -/
  served : ∀ name p, play.kept.get? name = some p →
    (s.passage words name none none).run play = (.ok p, play)
  /-- Where something is given, and for headers and footers, it does not matter what is kept, and
  what is kept stays. -/
  beside : ∀ request, s.plainName? request = none → Aside (s.answer words request)
  /-- A name that the story does not have changes nothing. -/
  unknown : ∀ name snapshot visits, s.contains name = false →
    (s.passage words name snapshot visits).run play = (.error (.passageNotFound name), play)
  /-- A kept passage that needs no words to be compiled is the one that is compiled for no variables
  and no visits given as such. -/
  idle : ∀ name record p used, s.passages.get? name = some record →
    play.kept.get? name = some p → (s.compiledPlain words record used).2 = used →
      (s.passage words name (some Table.empty) (some [])).run play = (.ok p, play)

/-- **The kept passages are stable** over every run of a story, whatever is asked for and in whatever
order. -/
theorem cacheStable (s : Story) (words : Words) (requests : List Request) :
    s.CacheStable words requests ((s.answers words requests).run {}).1
      ((s.answers words requests).run {}).2 := by
  have hempty : s.Genuine words {} := fun name p hp => by cases hp
  have hgenuine := genuine_answers requests hempty
  refine ⟨fun name => ?same, fun name p hp => ?served, fun request h => answer_aside h,
    fun name snapshot visits h => ?unknown, fun name record p used h hp hidle => ?idle⟩
  case same =>
    have hreply : ∀ i : Nat, (requests[i]?).bind s.plainName? = some name → ∃ reply,
        ((s.answers words requests).run {}).1[i]? = some reply ∧
          s.plainReply ((s.answers words requests).run {}).2.kept name = some reply := by
      intro i hi
      obtain ⟨request, hrequest, hname⟩ := Option.bind_eq_some_iff.mp hi
      exact reply_answers requests hrequest hname
    rw [contains, Table.contains]
    cases h : s.passages.get? name with
    | none =>
      refine ⟨.error (.passageNotFound name), by simp [Except.isOk, Except.toBool], fun i hi => ?_⟩
      obtain ⟨reply, hi, hend⟩ := hreply i hi
      rw [plainReply, h] at hend
      exact ⟨hi.trans hend.symm, fun p hp => by cases hp⟩
    | some record =>
      cases hkept : ((s.answers words requests).run {}).2.kept.get? name with
      | none =>
        -- Nothing is kept under the name, so nobody has asked for it like that.
        refine ⟨.ok (s.compiledPlain words record 0).1, by simp [Except.isOk, Except.toBool],
          fun i hi => ?_⟩
        obtain ⟨reply, hi, hend⟩ := hreply i hi
        simp only [plainReply, h, hkept, Option.map_none, reduceCtorEq] at hend
      | some p =>
        refine ⟨.ok p, by simp [Except.isOk, Except.toBool], fun i hi => ?_⟩
        obtain ⟨reply, hi, hend⟩ := hreply i hi
        simp only [plainReply, h, hkept, Option.map_some] at hend
        exact ⟨hi.trans hend.symm, fun q hq => by cases hq; rfl⟩
  case served =>
    obtain ⟨record, used, h, -⟩ := hgenuine name p hp
    exact passage_of_kept h hp
  case unknown =>
    have hnone : s.passages.get? name = none := by simpa [contains, Table.contains] using h
    rw [passage_unknown hnone]
    rfl
  case idle =>
    obtain ⟨record', used', h', hp'⟩ := hgenuine name p hp
    obtain rfl := Option.some.inj (h.symm.trans h')
    rw [passage_of_idle h hidle, ← hp', compiledPlain_of_idle hidle used']

end Story

end Hyperfiction
