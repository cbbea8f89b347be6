import PoolScaler.Reconcile.Pass
set_option autoImplicit false

/-!
# Draws

The suffixes that new pods are named with, in an order in which later ones are
greater, so that pods of one moment are listed in the order of their creation.
-/

namespace PoolScaler.Simulation

/-- The characters of a suffix, increasing. -/
def suffixChars : List Char := "2456789bcdfghjklmnpqrstvwxz".toList

/-- The last `length` digits of a number, written with the characters of a
suffix. -/
def suffixDigits (length n : Nat) (rest : List Char) : List Char :=
  match length with
  | 0 => rest
  | length + 1 =>
    let base := suffixChars.length
    suffixDigits length (n / base) (suffixChars.getD (n % base) '2' :: rest)

/-- The suffix of a number. -/
def suffix (n : Nat) : String := String.ofList (suffixDigits 5 n [])

/-- Where draws begin. -/
def firstDraw : Nat := 7654321

/-- The first `count` draws. -/
def draws (count : Nat) : List String := (List.range count).map fun i => suffix (firstDraw + i)

/-! ## Names -/

/-- How many draws there are. -/
def drawCount : Nat := 20000

/-- A stage on which nothing has been drawn. -/
def freshStage (store : Store) (ttl : Span) : Reconcile.Stage :=
  ⟨store, .new ttl, draws drawCount⟩

/-- The number of a name that was drawn, counting from 1. -/
def drawn? (s : Reconcile.Stage) (name : String) : Option Nat :=
  let used := drawCount - s.draws.length
  let tail := String.ofList (name.toList.reverse.take 6).reverse
  (((List.range used).find? fun i => tail == "-" ++ suffix (firstDraw + i))).map (· + 1)

/-- A name that was drawn as its number after a mark, any other as it is. -/
def labelled (s : Reconcile.Stage) (name : String) : String :=
  match drawn? s name with
  | some n => "@" ++ toString n
  | none => name

/-- The name that a label stands for in a pool. -/
def unlabelled (s : Reconcile.Stage) (pool label : String) : String :=
  match label.toList with
  | '@' :: digits =>
    match Text.readDigits? digits with
    | some n =>
      let tail := "-" ++ suffix (firstDraw + (n - 1))
      match s.store.pods.entries.find? fun e => e.1.endsWith tail with
      | some (_, text) =>
        match Store.readPod text with
        | .ok pod => pod.name
        | .error _ => pool ++ tail
      | none => pool ++ tail
    | none => label
  | _ => label

end PoolScaler.Simulation
