import FunctionIndex.ScanError

/-!
# Outcomes

Work that runs on its own can end in three ways: with a result, with an error, or with a crash,
which may leave a message.
-/

namespace FunctionIndex

/-- How a piece of work ended. -/
inductive Outcome (α : Type) where
  /-- With a result. -/
  | ok (a : α)
  /-- With an error. -/
  | error (e : ScanError)
  /-- With a crash. -/
  | crash (message : Option String)

namespace Outcome

variable {α β : Type}

/-- The outcome of work that cannot crash. -/
def ofExcept : Except ScanError α → Outcome α
  | .ok a => ok a
  | .error e => error e

/-- Goes on with a result. -/
def bind (x : Outcome α) (f : α → Outcome β) : Outcome β :=
  match x with
  | ok a => f a
  | error e => error e
  | crash m => crash m

/-- Changes a result. -/
def map (f : α → β) (x : Outcome α) : Outcome β := x.bind fun a => ok (f a)

instance : Monad Outcome where
  pure := ok
  bind := bind

/-- What a crash is reported as. -/
def crashReport : Option String → String
  | some m => s!"backend panicked: {m}"
  | none => "backend panicked"

/-- The outcome as it is reported to somebody else: a crash is an error like others. -/
def report : Outcome α → Except ScanError α
  | ok a => .ok a
  | error e => .error e
  | crash m => .error (.other (crashReport m))

@[simp] theorem ofExcept_eq_ok_iff {x : Except ScanError α} {a : α} :
    ofExcept x = ok a ↔ x = .ok a := by
  cases x <;> simp [ofExcept]

@[simp] theorem report_eq_ok_iff {x : Outcome α} {a : α} : x.report = .ok a ↔ x = ok a := by
  cases x <;> simp [report]

end Outcome

end FunctionIndex
