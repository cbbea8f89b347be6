set_option autoImplicit false

/-!
# Dialogues

A computation that asks its surroundings questions and goes on with their
answers.  What the surroundings do is not part of it: a script can answer, or a
state that remembers, or another dialogue with surroundings further out.
Running a dialogue shows its result and every exchange in order.
-/

namespace PoolScaler

/-- What can be asked, and what kind of answer each question has. -/
structure Interface where
  Call : Type
  Answer : Call → Type

/-- A computation that asks questions of `S` and ends with an `α`. -/
inductive Dialogue (S : Interface) (α : Type) where
  /-- It has ended. -/
  | done (a : α)
  /-- It asks, and goes on with the answer. -/
  | ask (call : S.Call) (next : S.Answer call → Dialogue S α)

/-- A question together with its answer. -/
structure Exchange (S : Interface) where
  call : S.Call
  answer : S.Answer call

/-- Surroundings that remember a state. -/
abbrev Surroundings (S : Interface) (σ : Type) : Type :=
  σ → (call : S.Call) → S.Answer call × σ

namespace Dialogue

variable {S T : Interface} {α β σ : Type}

/-- Ask one question and end with its answer. -/
def call (c : S.Call) : Dialogue S (S.Answer c) := .ask c .done

/-- One dialogue after another. -/
def bind : Dialogue S α → (α → Dialogue S β) → Dialogue S β
  | .done a, f => f a
  | .ask c next, f => .ask c fun answer => (next answer).bind f

instance : Monad (Dialogue S) where
  pure := .done
  bind := bind

@[simp] theorem done_bind (a : α) (f : α → Dialogue S β) : (done a).bind f = f a := rfl

@[simp] theorem ask_bind (c : S.Call) (next : S.Answer c → Dialogue S α) (f : α → Dialogue S β) :
    (ask c next).bind f = ask c fun answer => (next answer).bind f := rfl

/-- A dialogue's result, its exchanges in order, and the state it leaves. -/
structure Outcome (S : Interface) (σ α : Type) where
  result : α
  exchanges : List (Exchange S)
  state : σ

/-- Run a dialogue in given surroundings. -/
def run (env : Surroundings S σ) (s : σ) : Dialogue S α → Outcome S σ α
  | .done a => ⟨a, [], s⟩
  | .ask c next =>
    let out := (next (env s c).1).run env (env s c).2
    { out with exchanges := ⟨c, (env s c).1⟩ :: out.exchanges }

@[simp] theorem run_done (env : Surroundings S σ) (s : σ) (a : α) :
    (done a : Dialogue S α).run env s = ⟨a, [], s⟩ := rfl

/-- Running one dialogue after another runs the first and then the second. -/
theorem run_bind (env : Surroundings S σ) (d : Dialogue S α) (f : α → Dialogue S β) (s : σ) :
    (d.bind f).run env s =
      let first := d.run env s
      let second := (f first.result).run env first.state
      ⟨second.result, first.exchanges ++ second.exchanges, second.state⟩ := by
  induction d generalizing s with
  | done a => rfl
  | ask c next ih =>
    simp only [ask_bind, run, ih]
    rfl

/-- The result of a dialogue and the state it leaves. -/
def eval (env : Surroundings S σ) (s : σ) (d : Dialogue S α) : α × σ :=
  let out := d.run env s
  (out.result, out.state)

/-- One dialogue after another that did not fail. -/
def andThen {ε : Type} (d : Dialogue S (Except ε α)) (f : α → Dialogue S (Except ε β)) :
    Dialogue S (Except ε β) :=
  d.bind fun
    | .ok a => f a
    | .error e => .done (.error e)

/-- Go on after a computation that asks nothing, if it did not fail. -/
def after {ε : Type} (r : Except ε α) (f : α → Dialogue S (Except ε β)) :
    Dialogue S (Except ε β) :=
  match r with
  | .ok a => f a
  | .error e => .done (.error e)

/-- Let another dialogue answer each question. -/
def through (answer : (c : S.Call) → Dialogue T (S.Answer c)) :
    Dialogue S α → Dialogue T α
  | .done a => .done a
  | .ask c next => (answer c).bind fun a => (next a).through answer

end Dialogue

/-! ## Questions that a signal may cut short -/

/-- The questions of `S`, each either waited for until its answer comes, or
given up when a signal comes first. -/
inductive Interface.Raced (S : Interface) where
  /-- Wait for the answer. -/
  | steady (call : S.Call)
  /-- Give up when the signal comes first. -/
  | raced (call : S.Call)
  /-- Ask whether the signal has come. -/
  | signalled

/-- What a question that may be cut short is answered. -/
def Interface.Raced.Answer {S : Interface} : S.Raced → Type
  | .steady c => S.Answer c
  | .raced c => Option (S.Answer c)
  | .signalled => Bool

/-- The questions of `S` beside a signal. -/
def Interface.withSignal (S : Interface) : Interface := ⟨S.Raced, Interface.Raced.Answer⟩

namespace Dialogue

variable {S : Interface} {α : Type}

/-- A dialogue that does not look at the signal. -/
def steady : Dialogue S α → Dialogue S.withSignal α
  | .done a => .done a
  | .ask c next => .ask (S := S.withSignal) (.steady c) fun answer => (next answer).steady

/-- A dialogue that is given up as soon as the signal comes while it waits. -/
def raced : Dialogue S α → Dialogue S.withSignal (Option α)
  | .done a => .done (some a)
  | .ask c next => .ask (S := S.withSignal) (.raced c) fun answer =>
      match (answer : Option (S.Answer c)) with
      | some a => (next a).raced
      | none => .done none

/-- Ask whether the signal has come. -/
def signalled : Dialogue S.withSignal Bool := call (S := S.withSignal) .signalled

end Dialogue

end PoolScaler
