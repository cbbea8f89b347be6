import PoolScaler.Dialogue
set_option autoImplicit false

/-!
# What a dialogue does in its surroundings

A run is known by its result, the questions it asked and the state it left.
`Dialogue.Runs` says all three at once, and says them of a dialogue made of two
from what it says of the two.
-/

namespace PoolScaler.Dialogue

variable {S : Interface} {α β σ : Type}

/-- In given surroundings a dialogue ends with `a`, having asked `calls` and
turned the state `s` into `s'`. -/
structure Runs (env : Surroundings S σ) (d : Dialogue S α) (s : σ) (a : α) (calls : List S.Call)
    (s' : σ) : Prop where
  result : (d.run env s).result = a
  calls : (d.run env s).exchanges.map (·.call) = calls
  state : (d.run env s).state = s'

namespace Runs

variable {env : Surroundings S σ} {s s' s'' : σ}

theorem done (a : α) : Runs env (.done a) s a [] s := ⟨rfl, rfl, rfl⟩

theorem ask {c : S.Call} {next : S.Answer c → Dialogue S α} {a : α} {calls : List S.Call}
    {answer : S.Answer c} (henv : env s c = (answer, s'))
    (h : Runs env (next answer) s' a calls s'') : Runs env (.ask c next) s a (c :: calls) s'' := by
  constructor
  · simpa only [run, henv] using h.result
  · simpa only [run, henv, List.map_cons, List.cons.injEq, true_and] using h.calls
  · simpa only [run, henv] using h.state

theorem bind {d : Dialogue S α} {f : α → Dialogue S β} {a : α} {b : β} {calls calls' : List S.Call}
    (h : Runs env d s a calls s') (h' : Runs env (f a) s' b calls' s'') :
    Runs env (d.bind f) s b (calls ++ calls') s'' := by
  obtain ⟨rfl, rfl, rfl⟩ := h
  constructor
  · simpa only [run_bind] using h'.result
  · simpa only [run_bind, List.map_append, List.append_cancel_left_eq] using h'.calls
  · simpa only [run_bind] using h'.state

theorem bind_done {d : Dialogue S α} {f : α → Dialogue S β} {a : α} {b : β} {calls : List S.Call}
    (h : Runs env d s a calls s') (hf : f a = .done b) : Runs env (d.bind f) s b calls s' := by
  have hbind : Runs env (d.bind f) s b (calls ++ []) s' := h.bind (hf ▸ done b)
  rwa [List.append_nil] at hbind

end Runs

theorem run_state_of_done (env : Surroundings S σ) (s : σ) (d : Dialogue S α)
    {f : α → Dialogue S β} (hf : ∀ a, ∃ b, f a = .done b) :
    ((d.bind f).run env s).state = (d.run env s).state := by
  obtain ⟨b, hb⟩ := hf (d.run env s).result
  rw [run_bind]
  dsimp only
  rw [hb, run_done]

section

variable {ε : Type} {env : Surroundings S σ} {s : σ} {d : Dialogue S (Except ε α)}

/-- After a dialogue that did not fail the next one goes on from where it stopped. -/
theorem run_andThen_ok {a : α} (h : (d.run env s).result = .ok a)
    (f : α → Dialogue S (Except ε β)) :
    (d.andThen f).run env s =
      let second := (f a).run env (d.run env s).state
      ⟨second.result, (d.run env s).exchanges ++ second.exchanges, second.state⟩ := by
  unfold andThen
  rw [run_bind]
  dsimp only
  rw [h]

/-- After a dialogue that failed nothing is asked. -/
theorem run_andThen_error {e : ε} (h : (d.run env s).result = .error e)
    (f : α → Dialogue S (Except ε β)) :
    (d.andThen f).run env s = ⟨.error e, (d.run env s).exchanges, (d.run env s).state⟩ := by
  unfold andThen
  rw [run_bind]
  dsimp only
  rw [h, run_done, List.append_nil]

/-- What is made of a result at the end takes no exchange. -/
theorem run_andThen_done (env : Surroundings S σ) (s : σ) (d : Dialogue S (Except ε α))
    (f : α → Except ε β) :
    ((d.andThen fun a => .done (f a)).run env s).exchanges = (d.run env s).exchanges ∧
      ((d.andThen fun a => .done (f a)).run env s).state = (d.run env s).state := by
  cases h : (d.run env s).result with
  | ok a =>
    rw [run_andThen_ok h]
    exact ⟨List.append_nil _, rfl⟩
  | error e =>
    rw [run_andThen_error h]
    exact ⟨rfl, rfl⟩

end

/-- Whatever is answered, a dialogue ends with something that satisfies `P`. -/
def Ends (P : α → Prop) : Dialogue S α → Prop
  | .done a => P a
  | .ask _ next => ∀ answer, (next answer).Ends P

namespace Ends

theorem trivial (d : Dialogue S α) : d.Ends fun _ => True := by
  induction d with
  | done a => exact True.intro
  | ask c next ih => exact ih

theorem imp {P Q : α → Prop} {d : Dialogue S α} (h : d.Ends P) (himp : ∀ a, P a → Q a) :
    d.Ends Q := by
  induction d with
  | done a => exact himp a h
  | ask c next ih => exact fun answer => ih answer (h answer)

theorem bind {P : α → Prop} {Q : β → Prop} {d : Dialogue S α} {f : α → Dialogue S β}
    (h : d.Ends P) (h' : ∀ a, P a → (f a).Ends Q) : (d.bind f).Ends Q := by
  induction d with
  | done a => exact h' a h
  | ask c next ih => exact fun answer => ih answer (h answer)

theorem run {P : α → Prop} {d : Dialogue S α} (h : d.Ends P) (env : Surroundings S σ) (s : σ) :
    P (d.run env s).result := by
  induction d generalizing s with
  | done a => exact h
  | ask c next ih => exact ih _ (h _) _

end Ends

/-- Whatever is answered, the exchanges of a dialogue and what it ends with satisfy `P`. -/
def Traces : Dialogue S α → (List (Exchange S) → α → Prop) → Prop
  | .done a, P => P [] a
  | .ask c next, P => ∀ answer, (next answer).Traces fun later a => P (⟨c, answer⟩ :: later) a

namespace Traces

theorem imp {P Q : List (Exchange S) → α → Prop} {d : Dialogue S α} (h : d.Traces P)
    (himp : ∀ exchanges a, P exchanges a → Q exchanges a) : d.Traces Q := by
  induction d generalizing P Q with
  | done a => exact himp [] a h
  | ask c next ih =>
    exact fun answer => ih answer (h answer) fun later a => himp (⟨c, answer⟩ :: later) a

theorem and {P : List (Exchange S) → α → Prop} {Q : α → Prop} {d : Dialogue S α}
    (h : d.Traces P) (h' : d.Ends Q) : d.Traces fun exchanges a => P exchanges a ∧ Q a := by
  induction d generalizing P with
  | done a => exact ⟨h, h'⟩
  | ask c next ih => exact fun answer => ih answer (h answer) (h' answer)

theorem both {P Q : List (Exchange S) → α → Prop} {d : Dialogue S α} (h : d.Traces P)
    (h' : d.Traces Q) : d.Traces fun exchanges a => P exchanges a ∧ Q exchanges a := by
  induction d generalizing P Q with
  | done a => exact ⟨h, h'⟩
  | ask c next ih => exact fun answer => ih answer (h answer) (h' answer)

theorem bind {P : List (Exchange S) → α → Prop} {Q : List (Exchange S) → β → Prop}
    {d : Dialogue S α} {f : α → Dialogue S β} (h : d.Traces P)
    (h' : ∀ earlier a, P earlier a → (f a).Traces fun later b => Q (earlier ++ later) b) :
    (d.bind f).Traces Q := by
  induction d generalizing P Q with
  | done a => exact h' [] a h
  | ask c next ih =>
    exact fun answer => ih answer (h answer) fun earlier a => h' (⟨c, answer⟩ :: earlier) a

theorem bind_done {P : List (Exchange S) → α → Prop} {Q : List (Exchange S) → β → Prop}
    {d : Dialogue S α} {f : α → Dialogue S β} (h : d.Traces P)
    (h' : ∀ exchanges a, P exchanges a → ∃ b, f a = .done b ∧ Q exchanges b) :
    (d.bind f).Traces Q := by
  refine h.bind fun exchanges a ha => ?_
  obtain ⟨b, hb, hQ⟩ := h' exchanges a ha
  rw [hb]
  have hend : Q (exchanges ++ []) b := by rwa [List.append_nil]
  exact hend

theorem call_bind {Q : List (Exchange S) → β → Prop} {c : S.Call}
    {f : S.Answer c → Dialogue S β}
    (h : ∀ answer, (f answer).Traces fun later b => Q (⟨c, answer⟩ :: later) b) :
    ((call c).bind f).Traces Q := h

theorem andThen {ε : Type} {P : List (Exchange S) → Except ε α → Prop}
    {Q : List (Exchange S) → Except ε β → Prop} {d : Dialogue S (Except ε α)}
    {f : α → Dialogue S (Except ε β)} (h : d.Traces P)
    (hok : ∀ earlier a, P earlier (.ok a) → (f a).Traces fun later b => Q (earlier ++ later) b)
    (herror : ∀ earlier e, P earlier (.error e) → Q earlier (.error e)) :
    (d.andThen f).Traces Q := by
  unfold Dialogue.andThen
  refine h.bind fun earlier result hresult => ?_
  cases result with
  | ok a => exact hok earlier a hresult
  | error e =>
    have hend : Q (earlier ++ []) (.error e) := by
      rw [List.append_nil]
      exact herror earlier e hresult
    exact hend

theorem after {ε : Type} {Q : List (Exchange S) → Except ε β → Prop} {r : Except ε α}
    {f : α → Dialogue S (Except ε β)} (hok : ∀ a, r = .ok a → (f a).Traces Q)
    (herror : ∀ e, r = .error e → Q [] (.error e)) : (Dialogue.after r f).Traces Q := by
  cases r with
  | ok a => exact hok a rfl
  | error e => exact herror e rfl

theorem run {P : List (Exchange S) → α → Prop} {d : Dialogue S α} (h : d.Traces P)
    (env : Surroundings S σ) (s : σ) : P (d.run env s).exchanges (d.run env s).result := by
  induction d generalizing P s with
  | done a => exact h
  | ask c next ih => exact ih (env s c).1 (h (env s c).1) (env s c).2

end Traces

section

variable {T : Interface}

/-- Surroundings in which another dialogue answers each question, in surroundings
further out. -/
def relay (answer : (c : S.Call) → Dialogue T (S.Answer c)) (env : Surroundings T σ) :
    Surroundings S σ := fun s c => (answer c).eval env s

variable (answer : (c : S.Call) → Dialogue T (S.Answer c)) (env : Surroundings T σ)

/-- A dialogue through another ends as it does in the surroundings that relay its
questions. -/
theorem result_through (s : σ) (d : Dialogue S α) :
    ((d.through answer).run env s).result = (d.run (relay answer env) s).result := by
  induction d generalizing s with
  | done a => rfl
  | ask c next ih =>
    rw [through, run_bind]
    exact ih _ _

/-- Each question of a dialogue through another is answered in one stretch, by what the
other asks for it. -/
theorem exists_stretch (s : σ) (d : Dialogue S α) {x : Exchange S}
    (hx : x ∈ (d.run (relay answer env) s).exchanges) : ∃ before later s',
      ((d.through answer).run env s).exchanges =
        before ++ ((answer x.call).run env s').exchanges ++ later ∧
      ((answer x.call).run env s').result = x.answer := by
  induction d generalizing s with
  | done a => cases hx
  | ask c next ih =>
    rw [through, run_bind]
    obtain rfl | hx := List.mem_cons.mp hx
    · exact ⟨[], _, s, rfl, rfl⟩
    · obtain ⟨before, later, s', hstretch, hresult⟩ := ih _ _ hx
      refine ⟨((answer c).run env s).exchanges ++ before, later, s', ?_, hresult⟩
      simp only [List.append_assoc] at hstretch ⊢
      exact congrArg (((answer c).run env s).exchanges ++ ·) hstretch

end

/-- One dialogue after another looks at the signal only where one of them does. -/
theorem steady_bind (d : Dialogue S α) (f : α → Dialogue S β) :
    (d.bind f).steady = d.steady.bind fun a => (f a).steady := by
  induction d with
  | done a => rfl
  | ask c next ih =>
    simp only [ask_bind, steady]
    congr 1
    funext answer
    exact ih answer

namespace Traces

theorem steady_bind_done {P : List (Exchange S.withSignal) → α → Prop}
    {Q : List (Exchange S.withSignal) → β → Prop} {d : Dialogue S α} {f : α → Dialogue S β}
    (h : d.steady.Traces P)
    (h' : ∀ exchanges a, P exchanges a → ∃ b, f a = .done b ∧ Q exchanges b) :
    (d.bind f).steady.Traces Q := by
  rw [Dialogue.steady_bind]
  refine h.bind_done fun exchanges a ha => ?_
  obtain ⟨b, hb, hQ⟩ := h' exchanges a ha
  exact ⟨b, congrArg steady hb, hQ⟩

theorem raced_ask {Q : List (Exchange S.withSignal) → Option α → Prop} {c : S.Call}
    {next : S.Answer c → Dialogue S α} (hcut : Q [⟨.raced c, none⟩] none)
    (h : ∀ answer,
      (next answer).raced.Traces fun later b => Q (⟨.raced c, some answer⟩ :: later) b) :
    (ask c next).raced.Traces Q := by
  rw [raced]
  rintro (_ | answer)
  · exact hcut
  · exact h answer

theorem raced_call (c : S.Call) :
    (call c).raced.Traces fun exchanges out => exchanges = [⟨.raced c, out⟩] :=
  raced_ask rfl fun _ => rfl

theorem raced_call_bind {Q : List (Exchange S.withSignal) → β → Prop} {c : S.Call}
    {f : Option (S.Answer c) → Dialogue S.withSignal β}
    (hcut : (f none).Traces fun later b => Q (⟨.raced c, none⟩ :: later) b)
    (h : ∀ answer, (f (some answer)).Traces fun later b => Q (⟨.raced c, some answer⟩ :: later) b) :
    ((call c).raced.bind f).Traces Q := by
  rw [call, raced]
  rintro (_ | answer)
  · exact hcut
  · exact h answer

/-- One dialogue after another is given up with the first of them or with the second. -/
theorem raced_bind {P : List (Exchange S.withSignal) → Option α → Prop}
    {Q : List (Exchange S.withSignal) → Option β → Prop} {d : Dialogue S α} {f : α → Dialogue S β}
    (h : d.raced.Traces P) (hcut : ∀ earlier, P earlier none → Q earlier none)
    (h' : ∀ earlier a, P earlier (some a) →
      (f a).raced.Traces fun later b => Q (earlier ++ later) b) :
    (d.bind f).raced.Traces Q := by
  induction d generalizing P Q with
  | done a => exact h' [] a h
  | ask c next ih =>
    rw [raced] at h
    rw [ask_bind, raced]
    rintro (_ | answer)
    · exact hcut _ (h none)
    · exact ih answer (h (some answer)) (fun earlier => hcut (⟨.raced c, some answer⟩ :: earlier))
        fun earlier => h' (⟨.raced c, some answer⟩ :: earlier)

end Traces

/-- An exchange that the signal could have cut short, but did not. -/
def uncut (x : Exchange S) : Exchange S.withSignal := ⟨.raced x.call, some x.answer⟩

/-- A dialogue does what it does when the signal could cut it short but does not come. -/
theorem Traces.of_raced {P : List (Exchange S.withSignal) → Option α → Prop} {d : Dialogue S α}
    (h : d.raced.Traces P) : d.Traces fun exchanges a => P (exchanges.map uncut) (some a) := by
  induction d generalizing P with
  | done a => exact h
  | ask c next ih =>
    rw [raced] at h
    intro answer
    exact ih answer (h (some answer))

/-- Waiting for each answer is asking in the surroundings that are waited for. -/
theorem eval_steady (env : Surroundings S.withSignal σ) (s : σ) (d : Dialogue S α) :
    d.steady.eval env s = d.eval (fun s c => env s (.steady c)) s := by
  induction d generalizing s with
  | done a => rfl
  | ask c next ih => exact ih (env s (.steady c)).1 (env s (.steady c)).2

/-- What was answered, be it waited for or not cut short. -/
def settled? : Exchange S.withSignal → Option (Exchange S)
  | ⟨.steady c, answer⟩ => some ⟨c, answer⟩
  | ⟨.raced c, some answer⟩ => some ⟨c, answer⟩
  | ⟨.raced _, none⟩ | ⟨.signalled, _⟩ => none

/-- A dialogue that waits for its answers does what it does without a signal. -/
theorem Traces.steady {P : List (Exchange S) → α → Prop} {d : Dialogue S α} (h : d.Traces P) :
    d.steady.Traces fun exchanges a => P (exchanges.filterMap settled?) a := by
  induction d generalizing P with
  | done a => exact h
  | ask c next ih => exact fun answer => ih answer (h answer)

/-- A dialogue that is not cut short does what it does without a signal. -/
theorem Traces.raced {P : List (Exchange S) → α → Prop} {d : Dialogue S α} (h : d.Traces P) :
    d.raced.Traces fun exchanges out =>
      ∀ a, out = some a → P (exchanges.filterMap settled?) a := by
  induction d generalizing P with
  | done a =>
    rintro _ ⟨⟩
    exact h
  | ask c next ih =>
    rw [Dialogue.raced]
    rintro (_ | answer)
    · exact nofun
    · exact ih answer (h answer)

namespace Runs

variable {env : Surroundings S.withSignal σ} {s s' : σ}

theorem raced_some {c : S.Call} {answer : S.Answer c}
    (henv : env s (.raced c) = (some answer, s')) :
    Runs env (call c).raced s (some answer) [.raced c] s' := by
  rw [call, raced]
  exact .ask henv (.done _)

theorem raced_none {c : S.Call} (henv : env s (.raced c) = (none, s')) :
    Runs env (call c).raced s none [.raced c] s' := by
  rw [call, raced]
  exact .ask henv (.done _)

end Runs

end PoolScaler.Dialogue
