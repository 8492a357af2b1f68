import IppXml.Session
import Mathlib.Data.List.Basic

/-! What sessions keep, whatever is done with them.

`Session.Takes` lists once all that a step can do. The rules of a single step follow from it
case by case, and the rules of whole runs by induction over their steps. Steps may come in
any sequence, and runs go on behind steps that fail.
-/

namespace IppXml

-----------------------------------------------------------------------------------------
-- A single step
-----------------------------------------------------------------------------------------

/-- What a step can do: the session before it, the step, the session behind it, and the
answer.
-/
inductive Session.Takes (c : Converter)
    : Session → Step → Session → Except Failure (List Event) → Prop
  | blank {session line text} (empty : lineTokens text = [])
    : Takes c session (.feed line text) session (.ok [])
  | header {line text} (alone : lineTokens text = [c.header])
    : Takes c (.underWay .awaitHeader) (.feed line text)
        (.underWay (.processing (.empty c.set.name))) (.ok [.headerAccepted line])
  | instruction {doc line text i}
    (spelled : Instruction.ofTokens c.set (lineTokens text) = .ok i)
    : Takes c (.underWay (.processing doc)) (.feed line text)
        (.underWay (.processing (doc.push i)))
        (.ok [.instructionAccepted line (doc.numbered i)])
  /-- The first line with tokens is not the header, or a later one is no instruction. -/
  | rejected {progress line text e} (tokens : lineTokens text ≠ [])
    : Takes c (.underWay progress) (.feed line text) (.underWay progress) (.error (.error e))
  | late {doc line text} (tokens : lineTokens text ≠ [])
    : Takes c (.done doc) (.feed line text) (.done doc) (.error (.defect .lineAfterDone))
  | finished {doc}
    : Takes c (.underWay (.processing doc)) .finish (.done doc) (.ok [.finished doc.size])
  | repeated {doc}
    : Takes c (.done doc) .finish (.done doc) (.ok [.finished doc.size])
  | unfinished {e}
    : Takes c (.underWay .awaitHeader) .finish (.underWay .awaitHeader) (.error (.error e))

/-- Under way, the tokens of a line decide about the step. -/
theorem Session.step_feed_underWay (c : Converter) (progress : Progress) (line : Int)
    {text : Bytes} (h : lineTokens text ≠ [])
    : (Session.underWay progress).step c (.feed line text)
      = match progress.accept c line (lineTokens text) with
        | .error e => (.underWay progress, .error (.error e))
        | .ok (next, event) => (.underWay next, .ok [event]) := by
  cases tokens : lineTokens text with
  | nil => exact absurd tokens h
  | cons token more =>
      simp only [Session.step, Session.feed, Progress.feed, tokens]
      cases progress.accept c line (token :: more) <;> rfl

/-- A step does one of these things, by the phase and the tokens of the line. -/
theorem Session.takes_step (c : Converter) (session : Session) (step : Step)
    : Session.Takes c session step (session.step c step).1 (session.step c step).2 := by
  cases step with
  | finish =>
      cases session with
      | done doc => exact .repeated
      | underWay progress =>
          cases progress with
          | awaitHeader => exact .unfinished
          | processing doc => exact .finished
  | feed line text =>
      by_cases tokens : lineTokens text = []
      · cases session <;>
          simpa [Session.step, Session.feed, Progress.feed, tokens] using .blank tokens
      · cases session with
        | done doc => simpa [Session.step, Session.feed, tokens] using .late tokens
        | underWay progress =>
            rw [Session.step_feed_underWay c progress line tokens]
            cases progress with
            | awaitHeader =>
                by_cases alone : lineTokens text = [c.header]
                · simpa [Progress.accept, alone] using .header alone
                · simpa [Progress.accept, alone] using .rejected tokens
            | processing doc =>
                cases parsed : Instruction.ofTokens c.set (lineTokens text) with
                | error fault => simpa [Progress.accept, parsed] using .rejected tokens
                | ok i => simpa [Progress.accept, parsed] using .instruction parsed

/-- Where the phase stands in the course of a session. -/
def Phase.place : Phase → Nat
  | awaitHeader => 0
  | processing => 1
  | done => 2

/-- The rules that a step keeps, given the session before and behind it and the answer. -/
structure Session.StepRules (c : Converter) (before : Session) (step : Step) (after : Session)
    (answer : Except Failure (List Event)) : Prop where
  /-- The phase stays or moves on by one place. -/
  forward : after.phase = before.phase ∨ after.phase.place = before.phase.place + 1
  /-- Instructions stay, or behind the header an accepted line adds its instruction at the
  end. -/
  growth
    : (after.document c).instructions = (before.document c).instructions
      ∨ ∃ line text i,
          step = .feed line text
          ∧ before.phase = .processing
          ∧ Instruction.ofTokens c.set (lineTokens text) = .ok i
          ∧ (∃ events, answer = .ok events)
          ∧ (after.document c).instructions
            = (before.document c).instructions
              ++ [{ i with order := (before.document c).instructions.length + 1 }]
  /-- A step that fails changes nothing. -/
  failure
    : (∃ failure, answer = .error failure)
      → after.phase = before.phase
        ∧ (after.document c).instructions = (before.document c).instructions
  /-- It is a defect to feed tokens to a session that is done, and nothing else is. -/
  defect
    : (∃ d, answer = .error (.defect d))
      ↔ before.phase = .done ∧ ∃ line text, step = .feed line text ∧ lineTokens text ≠ []
  /-- A session can be finished unless it still waits for its header. -/
  finish
    : step = .finish → ((∃ failure, answer = .error failure) ↔ before.phase = .awaitHeader)

/-- What a step can do is within the rules, case by case. -/
theorem Session.Takes.stepRules {c : Converter} {before after : Session} {step : Step}
    {answer : Except Failure (List Event)} (h : Session.Takes c before step after answer)
    : Session.StepRules c before step after answer := by
  cases h with
  | blank empty =>
      exact {
        forward := Or.inl rfl,
        growth := Or.inl rfl,
        failure := fun _ => ⟨rfl, rfl⟩,
        defect := by simp [empty],
        finish := by simp }
  | header alone =>
      exact {
        forward := Or.inr rfl,
        growth := Or.inl rfl,
        failure := by simp,
        defect := by simp [Session.phase, Progress.phase],
        finish := by simp }
  | instruction spelled =>
      exact {
        forward := Or.inl rfl,
        growth := Or.inr ⟨_, _, _, rfl, rfl, spelled, ⟨_, rfl⟩, rfl⟩,
        failure := by simp,
        defect := by simp [Session.phase, Progress.phase],
        finish := by simp }
  | @rejected progress line text e tokens =>
      exact {
        forward := Or.inl rfl,
        growth := Or.inl rfl,
        failure := fun _ => ⟨rfl, rfl⟩,
        defect := by cases progress <;> simp [Session.phase, Progress.phase],
        finish := by simp }
  | late tokens =>
      exact {
        forward := Or.inl rfl,
        growth := Or.inl rfl,
        failure := fun _ => ⟨rfl, rfl⟩,
        defect := by simpa [Session.phase] using tokens,
        finish := by simp }
  | finished =>
      exact {
        forward := Or.inr rfl,
        growth := Or.inl rfl,
        failure := by simp,
        defect := by simp,
        finish := by simp [Session.phase, Progress.phase] }
  | repeated =>
      exact {
        forward := Or.inl rfl,
        growth := Or.inl rfl,
        failure := by simp,
        defect := by simp,
        finish := by simp [Session.phase] }
  | unfinished =>
      exact {
        forward := Or.inl rfl,
        growth := Or.inl rfl,
        failure := fun _ => ⟨rfl, rfl⟩,
        defect := by simp,
        finish := by simp [Session.phase, Progress.phase] }

-----------------------------------------------------------------------------------------
-- Whole runs
-----------------------------------------------------------------------------------------

/-- The orders of the document count from one. -/
def Document.IsNumbered (doc : Document) : Prop :=
  doc.instructions.map Instruction.order = (List.range' 1 doc.instructions.length).map Int.ofNat

theorem Document.isNumbered_push {doc : Document} (h : doc.IsNumbered) (i : Instruction)
    : (doc.push i).IsNumbered := by
  rw [Document.IsNumbered] at h
  rw [Document.IsNumbered, Document.instructions_push, List.map_append, h, List.length_append,
    List.length_singleton, List.range'_1_concat, List.map_append]
  simp [Document.numbered, Document.size, Int.add_comm]

theorem Session.Takes.isNumbered {c : Converter} {before after : Session} {step : Step}
    {answer : Except Failure (List Event)} (h : Session.Takes c before step after answer)
    (numbered : (before.document c).IsNumbered)
    : (after.document c).IsNumbered := by
  cases h with
  | instruction spelled => exact Document.isNumbered_push numbered _
  | blank | header | rejected | late | finished | repeated | unfinished => exact numbered

theorem Session.isNumbered_run {c : Converter} {session : Session} (steps : List Step)
    (h : (session.document c).IsNumbered)
    : ((session.run c steps).document c).IsNumbered := by
  induction steps generalizing session with
  | nil => exact h
  | cons step rest ih => exact ih ((session.takes_step c step).isNumbered h)

/-- A run only moves forward: phases never go back, and instructions stay where they are. -/
theorem Session.run_forward (c : Converter) (session : Session) (steps : List Step)
    : session.phase.place ≤ (session.run c steps).phase.place
      ∧ (session.document c).instructions <+: ((session.run c steps).document c).instructions := by
  induction steps generalizing session with
  | nil => exact ⟨Nat.le_refl _, List.prefix_rfl⟩
  | cons step rest ih =>
      have rules := (session.takes_step c step).stepRules
      obtain ⟨later, kept⟩ := ih (session.step c step).1
      refine ⟨Nat.le_trans ?_ later, List.IsPrefix.trans ?_ kept⟩
      · rcases rules.forward with same | next
        · exact Nat.le_of_eq (congrArg Phase.place same.symm)
        · omega
      · rcases rules.growth with same | ⟨_, _, _, _, _, _, _, added⟩
        · exact same ▸ List.prefix_rfl
        · exact added ▸ List.prefix_append _ _

theorem Session.instructions_eq_nil_of_phase {c : Converter} {session : Session}
    (h : session.phase = .awaitHeader)
    : (session.document c).instructions = [] := by
  cases session with
  | done doc => exact absurd h (by simp [Session.phase])
  | underWay progress =>
      cases progress with
      | awaitHeader => rfl
      | processing doc => exact absurd h (by simp [Session.phase, Progress.phase])

/-- What holds in every session, after any steps in any sequence and whether they failed or
not: the orders count from one, nothing is listed before the header, every further step
keeps the rules, and every further run only moves forward.
-/
theorem Session.run_keeps_rules (c : Converter) (steps : List Step)
    : let session := Session.initial.run c steps
      let listed := (session.document c).instructions
      listed.map Instruction.order = (List.range' 1 listed.length).map Int.ofNat
      ∧ (session.phase = .awaitHeader → listed = [])
      ∧ (∀ step, Session.StepRules c session step (session.step c step).1
          (session.step c step).2)
      ∧ ∀ more,
          session.phase.place ≤ (session.run c more).phase.place
          ∧ listed <+: ((session.run c more).document c).instructions := by
  refine ⟨Session.isNumbered_run steps rfl, Session.instructions_eq_nil_of_phase, ?_, ?_⟩
  · exact fun step => (Session.takes_step c _ step).stepRules
  · exact Session.run_forward c _

end IppXml
