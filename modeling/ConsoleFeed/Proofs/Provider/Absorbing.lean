import ConsoleFeed.Proofs.Provider.Asking

/-!
# How failures are absorbed

Whoever asks for a snapshot meets what the provider of the key does, or that there is none (`met`).
What was met is told in two ways: as an attempt, which keeps a failure visible, and as a text, which
is there whatever was met. This file says which is which, for everything that can be met.
-/

namespace ConsoleFeed.Directory

/-- What asking for a snapshot meets: what the provider does that the key is bound to. -/
def met (directory : Directory) (key : String) (options : OptionSet) : Option Outcome :=
  (directory.provider? key).map fun bound =>
    bound.2.answer (directory.calls bound.1 + 1) options

/-- What was met, with a failure kept visible. -/
def attemptOf (met : Option Outcome) : Snapshot :=
  met.elim (.ok none) Outcome.snapshot

/-- The text that is shown for what was met. -/
def shown (met : Option Outcome) : String :=
  payloadOf (attemptOf met)

/-- What was met is told without loss, and its text is shown. There is no snapshot if there was no
provider, or it had nothing or the null document; an error tells which failure it was and what it
said, which is `none` for a panic without a text; anything else is the text of a document. The text
shown is that one, if there is one, and otherwise that of the empty object. -/
structure Absorbs (met : Option Outcome) (attempt : Snapshot) (text : String) : Prop where
  empty : attempt = .ok none ↔
    met = none ∨ met = some .nothing ∨ met = some (.document .null)
  document : ∀ snapshot, attempt = .ok (some snapshot) ↔
    ∃ value : Document, met = some (.document value) ∧ value ≠ .null ∧ snapshot = value.compact
  failed : ∀ message, attempt = .error (.failed message) ↔ met = some (.failed message)
  unserializable : ∀ fault, attempt = .error (.unserializable fault) ↔
    met = some (.unserializable fault)
  panicked : ∀ message, attempt = .error (.panicked message) ↔
    met = some (.panicked (.text message)) ∨ met = some (.panicked .untold) ∧ message = "none"
  shows : ∀ snapshot, attempt = .ok (some snapshot) → text = snapshot
  hides : (∀ snapshot, attempt ≠ .ok (some snapshot)) → text = "\x7b\x7d"

theorem absorbs (met : Option Outcome) : Absorbs met (attemptOf met) (shown met) := by
  cases met with
  | none => constructor <;> simp [attemptOf, shown, payloadOf, emptySnapshot]
  | some outcome =>
      cases outcome with
      | document value =>
          by_cases null : value = .null
          · subst null
            constructor <;> simp [attemptOf, shown, payloadOf, emptySnapshot, Outcome.snapshot]
          · have snapshot : Outcome.snapshot (.document value) = .ok (some value.compact) := by
              cases value <;> first | rfl | exact absurd rfl null
            constructor <;> simp [attemptOf, shown, payloadOf, snapshot, null, eq_comm]
      | panicked payload =>
          cases payload <;>
            constructor <;>
            simp [attemptOf, shown, payloadOf, emptySnapshot, Outcome.snapshot,
              PanicPayload.message, missingText, eq_comm]
      | _ => constructor <;> simp [attemptOf, shown, payloadOf, emptySnapshot, Outcome.snapshot]

section Asking

variable {directory : Directory} {key : String}

/-- Where the lookup returns, both ways of taking a snapshot tell what was met. -/
theorem answers_of_returns (returns : directory.Returns key) (options : OptionSet) :
    (directory.trySnapshot key options).answer = .ok (attemptOf (directory.met key options)) ∧
      (directory.takeSnapshot key options).answer = .ok (shown (directory.met key options)) := by
  have attempt : (directory.trySnapshot key options).answer =
      .ok (attemptOf (directory.met key options)) := by
    rcases trySnapshot_cases key options returns with
      ⟨unbound, attempt⟩ | ⟨number, registration, bound, present, attempt⟩
    · rw [attempt, met, unbound]
      rfl
    · have count : directory.calls number = registration.calls := by simp [calls, present]
      rw [attempt, met, bound, Option.map_some, count]
      rfl
  refine ⟨attempt, ?_⟩
  simp only [takeSnapshot, attempt]
  rfl

end Asking

end ConsoleFeed.Directory
