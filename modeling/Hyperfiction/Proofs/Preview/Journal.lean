import Mathlib.Data.List.DropRight
import Hyperfiction.Preview.Basic
import Hyperfiction.Proofs.Story.Kept
import Hyperfiction.Proofs.Story.Tables

/-!
# The journal of a preview

A preview goes on from line to line with a session, which its commands change. The **journal** is written
beside it: a list of what has happened, to which a command that succeeds adds and one that fails does not.
It is kept by asking the story for passages and knows of no session; the session is read off from it
(`Preview.Journal.session`): the names of the passages entered since all was last forgotten, and the
variables that these passages and the assignments between them leave, laid one over the other in order.

* One command does to the session what it adds to the journal (`Preview.perform_happening`), so after any
  lines the session is the one of the journal (`Preview.sessionFrom_journalFrom`).
* The commands that fail are listed (`Preview.Fails`). Each of them leaves the session and the telling of
  the story as they were, with the random words used (`Preview.perform_of_fails`), and a command that asks
  for a passage and is not among them enters it (`Preview.exists_entering`).

`Preview.consistent` puts this together for the previews of all stories.
-/

namespace Hyperfiction

/-- Does the command end a preview? -/
def Command.quits : Command → Bool
  | quit => true
  | _ => false

theorem Command.eq_quit {c : Command} (h : c.quits) : c = quit := by
  cases c with
  | quit => rfl
  | _ => cases h

namespace Preview

/-! ### Journals -/

/-- What happens in a preview and is remembered. -/
inductive Event where
  /-- Everything before is forgotten. -/
  | cleared
  | entered (passage : Passage)
  | assigned (name : Text) (value : Value)

namespace Event

/-- Is everything before the event forgotten? -/
def clears : Event → Bool
  | cleared => true
  | _ => false

/-- The passage that is entered. -/
def passage? : Event → Option Passage
  | entered p => some p
  | _ => none

/-- The variables behind the event. -/
def onto (s : Snapshot) : Event → Snapshot
  | cleared => Table.empty
  | entered p => s.overlay p.changes
  | assigned name value => s.insert name value

end Event

namespace Journal

/-- The events since everything was last forgotten. Events are written with the oldest first. -/
def recent (events : List Event) : List Event := events.rtakeWhile fun e => !e.clears

/-- The passages entered since then. -/
def passages (events : List Event) : List Passage := (recent events).filterMap Event.passage?

/-- The variables that the events since then leave behind. -/
def snapshot (events : List Event) : Snapshot := (recent events).foldl Event.onto Table.empty

/-- The session that a journal tells of. -/
def session (events : List Event) : Session :=
  ⟨snapshot events, (passages events).map (·.name), (passages events).getLast?⟩

theorem recent_append_cleared (events later : List Event) :
    recent (events ++ .cleared :: later) = recent later := by
  induction later using List.reverseRecOn with
  | nil => exact List.rtakeWhile_concat_neg _ _ _ (by simp [Event.clears])
  | append_singleton later e ih =>
    rw [← List.cons_append, ← List.append_assoc, recent, recent, List.rtakeWhile_concat,
      List.rtakeWhile_concat, ← recent, ih, ← recent]

theorem recent_append_singleton (events : List Event) {e : Event} (h : e.clears = false) :
    recent (events ++ [e]) = recent events ++ [e] :=
  List.rtakeWhile_concat_pos _ _ _ (by simp [h])

@[simp] theorem session_nil : session [] = {} := rfl

/-- **What is forgotten** makes no difference. -/
@[simp] theorem session_append_cleared (events later : List Event) :
    session (events ++ .cleared :: later) = session later := by
  simp only [session, snapshot, passages, recent_append_cleared]

/-- Entering a passage goes on with the session so far. -/
@[simp] theorem session_append_entered (events : List Event) (p : Passage) :
    session (events ++ [.entered p]) = (session events).after p := by
  simp [session, snapshot, passages, recent_append_singleton events (e := .entered p) rfl,
    Session.after, Event.onto, Event.passage?]

/-- An assignment binds its variable in the session so far. -/
@[simp] theorem session_append_assigned (events : List Event) (name : Text) (value : Value) :
    session (events ++ [.assigned name value]) =
      { session events with snapshot := (session events).snapshot.insert name value } := by
  simp [session, snapshot, passages, recent_append_singleton events (e := .assigned name value) rfl,
    Event.onto, Event.passage?]

end Journal

/-! ### Keeping a journal -/

/-- The choices that are shown in a session. -/
def offered (session : Session) : List Choice := (session.current.map Passage.choices).getD []

/-- The choice of a number, counted from 1. -/
def choice? (session : Session) (number : Nat) : Option Choice :=
  if number = 0 then none else (offered session)[number - 1]?

variable (p : Preview)

/-- What comes of asking for a passage: it is entered, or nothing happens. What is shown around a passage
is told for the variables behind it, and may use random words. -/
def entering (session : Session) (name : Text) : Playing (List Event) := do
  match ← p.story.passage p.words name (some session.snapshot) (some session.visits) with
  | .error _ => return []
  | .ok passage =>
    let behind := session.snapshot.overlay passage.changes
    let _ ← p.story.headerText p.words (some behind)
    let _ ← p.story.footerText p.words (some behind)
    return [.entered passage]

/-- What happens by a command. -/
def happening (session : Session) : Command → Playing (List Event)
  | .go name => p.entering session name
  | .choose number =>
    match choice? session number with
    | some choice => p.entering session choice.target
    | none => return []
  | .restart => do return .cleared :: (← p.entering {} p.start)
  | .assign name value => return [.assigned name value]
  | .quit | .help | .vars | .history | .incomplete _ | .unknown _ => return []

/-- The journal behind some lines, up to the one that ends the preview. -/
def journalFrom (events : List Event) : List Text → Playing (List Event)
  | [] => return events
  | line :: lines =>
    match Command.ofLine? line with
    | none => journalFrom events lines
    | some c =>
      if c.quits then return events
      else do
        let more ← p.happening (Journal.session events) c
        journalFrom (events ++ more) lines

/-- The journal of a preview that some lines are entered into. -/
def journal (lines : List Text) : Playing (List Event) := do
  let events ← p.entering {} p.start
  p.journalFrom events lines

/-! ### The session behind some lines -/

/-- The session behind some lines, up to the one that ends the preview. -/
def sessionFrom (session : Session) : List Text → Playing Session
  | [] => return session
  | line :: lines => do
    match (← p.step session line).2 with
    | none => return session
    | some next => sessionFrom next lines

/-- The session of a preview that some lines are entered into. -/
def sessionAfter (lines : List Text) : Playing Session := do
  let opened ← p.opening
  p.sessionFrom opened.2 lines

/-- Does the line end the preview? -/
def ends (line : Text) : Bool := (Command.ofLine? line).any Command.quits

/-! ### One command -/

theorem target?_eq (session : Session) (number : Nat) :
    target? session number = (choice? session number).map Choice.target := by
  rw [target?, choice?, offered]
  cases session.current with
  | none => cases number <;> simp
  | some passage =>
    cases number with
    | zero => rfl
    | succ n => exact Option.map_eq_bind.symm

/-- Entering a passage does to the session what it adds to the journal. -/
theorem enter_entering (events : List Event) (name : Text) :
    Prod.snd <$> p.enter (Journal.session events) name =
      (fun more => Journal.session (events ++ more)) <$>
        p.entering (Journal.session events) name := by
  simp only [enter, entering, Session.enter, map_bind, bind_assoc]
  congr 1
  funext reply
  cases reply with
  | error e => simp
  | ok passage => simp [Session.after]

/-- **One command** does to the session what it adds to the journal, unless it ends the preview. -/
theorem perform_happening (events : List Event) {c : Command} (h : c.quits = false) :
    Prod.snd <$> p.perform (Journal.session events) c =
      (fun more => some (Journal.session (events ++ more))) <$>
        p.happening (Journal.session events) c := by
  have henter (name : Text) := congrArg (some <$> ·) (p.enter_entering events name)
  cases c with
  | quit => cases h
  | help => simp [perform, happening]
  | go name => simpa [perform, happening] using henter name
  | vars =>
    simp only [perform, happening]
    split <;> simp
  | assign name value => simp [perform, happening]
  | history => simp [perform, happening]
  | restart =>
    -- The session that is entered is the one of the empty journal.
    have hopening := congrArg (some <$> ·) (p.enter_entering [] p.start)
    simpa [perform, happening] using hopening
  | choose number =>
    simp only [perform, happening, target?_eq]
    cases choice? (Journal.session events) number with
    | none => simp
    | some choice => simpa using henter choice.target
  | incomplete usage => simp [perform, happening]
  | unknown word => simp [perform, happening]

/-! ### Any lines -/

/-- A line that is no command changes nothing. -/
theorem step_of_eq_none {line : Text} (h : Command.ofLine? line = none) (session : Session) :
    p.step session line = pure ([], some session) := by
  rw [step, h]

theorem step_of_eq_some {line : Text} {c : Command} (h : Command.ofLine? line = some c)
    (session : Session) : p.step session line = p.perform session c := by
  rw [step, h]

/-- What a line leads to goes by the session behind it. -/
private theorem sessionFrom_cons (session : Session) (line : Text) (lines : List Text) :
    p.sessionFrom session (line :: lines) = (do
      match ← Prod.snd <$> p.step session line with
      | none => return session
      | some next => p.sessionFrom next lines) := by
  rw [sessionFrom, bind_map_left]

/-- **The session behind any lines** is the one of their journal. -/
theorem sessionFrom_journalFrom (events : List Event) (lines : List Text) :
    p.sessionFrom (Journal.session events) lines =
      Journal.session <$> p.journalFrom events lines := by
  induction lines generalizing events with
  | nil => simp [sessionFrom, journalFrom]
  | cons line lines ih =>
    rw [sessionFrom_cons]
    cases hline : Command.ofLine? line with
    | none => simp [step_of_eq_none p hline, journalFrom, hline, ih]
    | some c =>
      rw [step_of_eq_some p hline, journalFrom, hline]
      cases hquits : c.quits with
      | true =>
        obtain rfl := Command.eq_quit hquits
        simp [perform, Command.quits]
      | false => simp [p.perform_happening events hquits, hquits, ih]

/-- A command has a session behind it unless it ends the preview. -/
private theorem isSome_perform (session : Session) (c : Command) (play : Play) :
    ((p.perform session c).run play).1.2.isSome = !c.quits := by
  cases c with
  | vars =>
    simp only [perform]
    split <;> rfl
  | choose number =>
    simp only [perform]
    split <;> rfl
  | _ => rfl

/-- The session goes on unless a line ends it. -/
private theorem isSome_step (session : Session) (line : Text) (play : Play) :
    ((p.step session line).run play).1.2.isSome = !ends line := by
  rw [ends]
  cases hline : Command.ofLine? line with
  | none => rw [step_of_eq_none p hline]; rfl
  | some c => rw [step_of_eq_some p hline, isSome_perform]; rfl

/-- What is shown for a line comes before what is shown for those behind it. -/
private theorem run_steps_cons (session : Session) (line : Text) (lines : List Text) (play : Play) :
    (p.steps session (line :: lines)).run play =
      let first := (p.step session line).run play
      match first.1.2 with
      | none => (prompt ++ first.1.1, first.2)
      | some next =>
        let rest := (p.steps next lines).run first.2
        (prompt ++ first.1.1 ++ rest.1, rest.2) := by
  rw [steps, StateT.run_bind]
  rcases (p.step session line).run play with ⟨⟨t, _ | next⟩, behind⟩ <;> rfl

/-- **A session takes one line after the other**, until one ends it. -/
private theorem run_sessionFrom_cons (session : Session) (line : Text) (lines : List Text)
    (play : Play) :
    (p.sessionFrom session (line :: lines)).run play =
      let first := (p.step session line).run play
      match first.1.2 with
      | none => (session, first.2)
      | some next => (p.sessionFrom next lines).run first.2 := by
  rw [sessionFrom, StateT.run_bind]
  rcases (p.step session line).run play with ⟨⟨t, _ | next⟩, behind⟩ <;> rfl

/-- **What is shown for further lines** goes by the session behind the first ones and by nothing else that
they have left. -/
theorem exists_shown (session : Session) (lines : List Text) (play : Play) :
    ∃ shown, ∀ more, (p.steps session (lines ++ more)).run play =
      let reached := (p.sessionFrom session lines).run play
      if lines.any ends then (shown, reached.2)
      else
        let rest := (p.steps reached.1 more).run reached.2
        (shown ++ rest.1, rest.2) := by
  induction lines generalizing session play with
  | nil => exact ⟨[], fun more => rfl⟩
  | cons line lines ih =>
    have hsome := p.isSome_step session line play
    simp only [List.cons_append, run_steps_cons, run_sessionFrom_cons, List.any_cons]
    rcases hfirst : (p.step session line).run play with ⟨⟨t, _ | next⟩, behind⟩
    · have hends : ends line = true := by simpa [hfirst] using hsome
      exact ⟨prompt ++ t, fun more => by simp [hends]⟩
    · have hends : ends line = false := by simpa [hfirst] using hsome
      obtain ⟨shown, hshown⟩ := ih next behind
      refine ⟨prompt ++ t ++ shown, fun more => ?_⟩
      simp only [hends, Bool.false_or, hshown]
      split <;> simp

/-! ### Commands that fail -/

/-- The command fails in a session: it asks for a passage that the story does not have, or for a choice
that is not shown, or it is incomplete or unknown. -/
inductive Fails (session : Session) : Command → Prop where
  | noPassage {name : Text} : p.story.contains name = false → Fails session (.go name)
  | noChoice {number : Nat} : number = 0 ∨ (offered session).length < number →
    Fails session (.choose number)
  | noTarget {number : Nat} {choice : Choice} : choice? session number = some choice →
    p.story.contains choice.target = false → Fails session (.choose number)
  | incomplete (usage : Text) : Fails session (.incomplete usage)
  | unknown (word : Text) : Fails session (.unknown word)

/-- A number picks a choice if it is among those offered. -/
theorem choice?_eq_none_iff {session : Session} {number : Nat} :
    choice? session number = none ↔ number = 0 ∨ (offered session).length < number := by
  rw [choice?]
  split
  · simp [*]
  · rw [List.getElem?_eq_none_iff]
    omega

/-- Asking for a passage that the story does not have changes nothing. -/
theorem enter_of_not_contains {name : Text} (h : p.story.contains name = false) (session : Session) :
    ∃ told, p.enter session name = pure (told, session) := by
  have hnone : p.story.passages.get? name = none := by
    simpa [Story.contains, Table.contains] using h
  refine ⟨Text.line ("ERROR: ".toList ++ (StoryError.passageNotFound name).message), ?_⟩
  rw [enter, Session.enter, Story.passage_unknown hnone]
  rfl

/-- **A command that fails** leaves the session as it is, and the telling of the story with the random
words that were used. -/
theorem perform_of_fails {session : Session} {c : Command} (h : p.Fails session c) :
    ∃ told, p.perform session c = pure (told, some session) := by
  cases h with
  | noPassage hname =>
    obtain ⟨told, htold⟩ := p.enter_of_not_contains hname session
    exact ⟨told, by rw [perform, htold]; rfl⟩
  | @noChoice number hnumber =>
    refine ⟨Text.line ("No choice ".toList ++ Text.ofNat number), ?_⟩
    rw [perform, target?_eq, choice?_eq_none_iff.mpr hnumber]
    rfl
  | noTarget hchoice hname =>
    obtain ⟨told, htold⟩ := p.enter_of_not_contains hname session
    refine ⟨told, ?_⟩
    rw [perform, target?_eq, hchoice]
    simp only [Option.map_some, htold]
    rfl
  | incomplete usage => exact ⟨_, rfl⟩
  | unknown word => exact ⟨_, rfl⟩

/-! ### Stories of records -/

/-- The story of a preview is made of records. -/
theorem exists_ofRecords_of_ofSource {source : StorySource} {seed : Option Nat} {chance : Nat}
    {start : Option Text} {p : Preview} (h : ofSource source seed chance start = .ok p) :
    ∃ config records, Story.ofRecords config records = .ok p.story := by
  rw [ofSource] at h
  split at h
  · cases h
  · rename_i s hstory
    split at h
    · cases h
    · obtain rfl := Except.ok.inj h
      obtain ⟨config, -, hrecords⟩ := bind_eq_ok_iff.mp hstory
      obtain ⟨records, -, hs⟩ := bind_eq_ok_iff.mp hrecords
      exact ⟨config, records, hs⟩

/-- **A passage that the story has is entered** under the name that was asked for. -/
theorem exists_entering {config : StoryConfig} {records : List PassageRecord}
    (h : Story.ofRecords config records = .ok p.story) {name : Text} (hname : p.story.contains name)
    (session : Session) (play : Play) :
    ∃ passage, ((p.entering session name).run play).1 = [.entered passage] ∧ passage.name = name := by
  obtain ⟨record, hrecord⟩ := Option.isSome_iff_exists.mp hname
  obtain ⟨rfl, -⟩ := (Story.get?_passages_iff h).mp hrecord
  rw [entering, Story.passage_of_given hrecord rfl]
  exact ⟨_, rfl, rfl⟩

/-- The session of a preview is what its journal tells, and commands that fail leave no trace. -/
structure Consistent (p : Preview) : Prop where
  /-- After any lines the session is the one of the journal, and the story is told as far. -/
  session : ∀ lines, p.sessionAfter lines = Journal.session <$> p.journal lines
  /-- What is shown for further lines goes by that session. -/
  shown : ∀ session lines play, ∃ shown, ∀ more, (p.steps session (lines ++ more)).run play =
    let reached := (p.sessionFrom session lines).run play
    if lines.any ends then (shown, reached.2)
    else
      let rest := (p.steps reached.1 more).run reached.2
      (shown ++ rest.1, rest.2)
  /-- A command that fails leaves the session as it is, and the random words. -/
  fails : ∀ session line c, Command.ofLine? line = some c → p.Fails session c →
    ∃ told, p.step session line = pure (told, some session)
  /-- A passage that is asked for is entered under its name if the story has it. -/
  entered : ∀ session name, p.story.contains name → ∀ play, ∃ passage,
    ((p.entering session name).run play).1 = [.entered passage] ∧ passage.name = name

/-- **A session is consistent** with what has happened in its preview, whatever the story is and whatever
lines are entered. -/
theorem consistent_of_ofSource {source : StorySource} {seed : Option Nat} {chance : Nat}
    {start : Option Text} {p : Preview} (h : ofSource source seed chance start = .ok p) :
    p.Consistent := by
  obtain ⟨config, records, hstory⟩ := exists_ofRecords_of_ofSource h
  refine ⟨fun lines => ?_, p.exists_shown, fun session line c hline hfails => ?_,
    fun session name hname play => p.exists_entering hstory hname session play⟩
  · have hopened := p.enter_entering [] p.start
    rw [sessionAfter, opening, journal, map_bind, ← Journal.session_nil,
      ← bind_map_left Prod.snd _ fun session => p.sessionFrom session lines, hopened, bind_map_left]
    simp only [List.nil_append, sessionFrom_journalFrom]
  · rw [p.step_of_eq_some hline]
    exact p.perform_of_fails hfails

/-- A restart forgets the passage that was entered by a choice; what fails behind it leaves no trace. -/
theorem consistent_of_ofSource_restart :
    let source : StorySource := { records := [
      ⟨"Start".toList, [], "(set: $x to true)[[Cave]]".toList⟩, ⟨"Cave".toList, [], "Dark.".toList⟩] }
    let lines : List Text := ["1".toList, "restart".toList, "go Nowhere".toList, "set $y yes".toList,
      "9".toList, "set z".toList, "jump".toList]
    ∃ p, ofSource source none 0 none = .ok p ∧ p.Consistent ∧
      let session := ((p.sessionAfter lines).run {}).1
      session.visits = ["Start".toList] ∧ session.snapshot.keys = ["x".toList, "y".toList] := by
  intro source lines
  obtain ⟨p, hp, hvalues⟩ : ∃ p, ofSource source none 0 none = .ok p ∧
      let session := ((p.sessionAfter lines).run {}).1
      session.visits = ["Start".toList] ∧ session.snapshot.keys = ["x".toList, "y".toList] :=
    ⟨_, rfl, by decide +kernel⟩
  exact ⟨p, hp, consistent_of_ofSource hp, hvalues⟩

end Preview

end Hyperfiction
