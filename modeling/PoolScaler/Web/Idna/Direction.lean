import PoolScaler.Text.Runs
set_option autoImplicit false

/-!
# Directions in names

Characters are written from left to right or from right to left.  In a name
with some of the latter every label has to go one way, so that it looks the
same wherever it stands.
-/

namespace PoolScaler.Web.Idna

/-- How a character is written, as far as it matters to names. -/
inductive Direction where
  /-- From left to right. -/
  | left
  /-- From right to left. -/
  | right
  /-- A digit that goes with either. -/
  | digit
  /-- A digit that goes with what is written from right to left. -/
  | arabic
  /-- A mark, which goes with the character before it. -/
  | mark
  /-- Anything else that either may have. -/
  | neutral
  /-- Anything that neither may have. -/
  | foreign
  deriving DecidableEq, Repr, Inhabited

/-- The direction of a letter of the table. -/
def Direction.read : Char → Direction
  | 'l' => left
  | 'r' => right
  | 'm' => digit
  | 'n' => arabic
  | 'k' => mark
  | 'o' => neutral
  | _ => foreign

/-- The runs of directions.  Characters that no name has go with those before
them. -/
def directions : Text.Runs Direction := .ofText (fun _ kind _ => .read kind) "
9o 5x eo 5x fo am 27o 1al 64o 18l 1o 1c1l 2o 7l eo 2l 1co 1l 11o 71k 4l 2o 7fl 2o 8bl 8k ffl 7o
2dk 1r 1k 1r 2k 1r 2k 1r 9k 36r 2o 1r 2o 1r 1o 1r 2o bk 30r 15k an 1o 2n 3r 1k 65r 8k 1o 6k 2r
2k 1o 4k 2r am 17r 1k 1er 1dk 59r bk 3ar 9k 2r 4o 3r 1k 18r 4k 1r 9k 1r 3k 1r 7k 29r 5k 39r 9k
2ar 39k 37l 1k 1l 1k 4l 8k 4l 1k 3l fk 2l 2k 1dl 1k 3al 1k 4l 6k 6l 1k 14l 4k cl 2o 7l 1o 2l 5k
39l 2k 3l 1bk 14l 2k 3l 1k bl 2k 39l 1k 4l 8k 4l 3k 12l 4k bl 8o 1l 8k 3al 1k 2l 1k 1l 6k 6l ak
bl 4k 1cl 1k 3dl 1k cl 3k 23l do 1k 3l 1k 37l 1k 1l 3k 5l 12k al 4k 12l 7o 2l 1k 3al 1k fl 9k dl
4k 1al 2k 39l 2k 4l 5k 7l 1k 14l 4k 1bl 1k 48l 5k 3l 6k 59l 1k 2l bk 1o 7l 8k 62l 1k 2l 9k bl 8k
48l 2k 1bl 1k 1l 1k 1l 1k 4o 33l ek 1l 5k 1l 2k 5l 31k 8l 1k 66l 4k 1l 6k 1l 2k 2l 2k 19l 2k 4l
3k 10l 4k dl 1k 2l 2k 6l 1k fl 1k 2bfl 3k 30l 10o 60l 1o 29al 5o 72l 3k 1dl 2k 1el ek 12l ek 37l
7k 8l 1k 2l bk 7l 1o 1l 3k 10l 20o 75l 2k 22l 1k 76l 3k 4l 2k 9l 1k 6l 7k 6o 98l 22o 17l 2k 2l
3k 38l 1k 1l 9k 1l 1k 2l 8k 6l dk 30l 54k 30l 1k 1l 5k 1l 1k 5l 1k 28l 9k cl 2k 20l 4k 2l 2k 1l
3k 38l 1k 1l 2k 3l 1k 1l 3k 3al 8k 2l 5k 95l 3k 1l dk 1l 7k 4l 1k 6l 1k 3l 2k c6l 41k 20bl c4o
34k 4ao 3cl 1aco 45l 1ao 1l 316o 1l 153o 100l 330o b5l 7o 3l 4k 6l 7o 7fl 1k 60l 20k 205o 3l 19o
9l 4k 2l 1o 6l 4o 2l 4o 58l 4k 3l 1o 5al 1o c4l 30o 1bd0l 40o 5690l 40o 13dl 3o 5fl 4k 1o ak 3o
1dl 2k 50l 2k el 23o 65l 1o 79l 1k 3l 1k 4l 1k 19l 2k 1l 4o 4k 8l 8o 34l co 44l ak 12l 12k dl 1k
26l 8k 19l bk 2el 3k 30l 1k 2l 4k 2l 2k 27l 1k 43l 6k 2l 2k 2l bk 3l 1k 8l 1k 2fl 1k 33l 1k 1l
3k 2l 2k 5l 2k 1l 1k 2al 2k 8l bk 69l 56o 25l 1k 2l 1k 4l 3k 4f2el 94k 11r 25do 25k 2eo 18dr
101l 1o 3el 4do 3l 40o 2dl 83k 60l 1k 1fm 76l ak 480l 11fr 1o e1r fk 28r 8k a5r 6k 4er 7o 1e4r
ck 1an 1fr 5k 1o f1r 20n 2br 2k 23r 2ao 6k 46r bk 31r 4k 7ar 1l 1k 36l fk bl 14o al 1k 2l 2k al
3k 31l 4k 2l 2k 7l ek 30l 3k 24l 5k 1l 9k 3dl 1k cl 2k 34l 9k al 4k 2l 1k 5fl 3k 2l 1k 1l 2k 6l
1k 2l 3fk 5fl 1k 3l dk 10l 2k 39l 2k 3l 1k 25l 1ak 3bl 7k cl 1k 1l 1k 1l 1k el 1fk 38l 8k 2l 3k
1l 1k 17l 1k 54l 6k 1l 1k 4l 2k 1l 2k eel 6k 4l 2k 1l 2k 1bl 24k 33l 8k 2l 1k 1l 2k 1fl 20o 2bl
1k 1l 1k 2l 6k 1l 1k 65l 1k 1l 1k 2l 4k 1l 9k ffl 9k 1l 2k 100l 2k 1l 1k 4l 1k 90l 8k 4l 1k 20l
6k 2l 2k 28l 6k 2l 4k 8l 9k 1l 6k 2l 3k 2el dk 1l 2k c6l 1k 1l 3k 1l 1k c9l ek 54l 17k 1l 7k 1l
2k 1l 4bk 31l 15k 1l 9k 40l 3k 2l 1k 1l 1k 15bl 2k bl 2k 34l 8k 2l 1k 1l 1k 17l 56k 25l 2ao
1441l 1k 6l 19k 2cbel ck 3l 3k 9c0l 5k 3bl 7k 418l 1k 3fl 4k 4fl 1o 1l ck 4cadl 2k f61l 300o 50k
217l 3k 11l 8k 2l 7k 1el 4k 3bl 59o 3k 7bo 40l 60o 6a0l 37k 4l 32k 8l 1k el 1k 16l 465k 100l
100k 30l 7k 177l 12k 2cl 4k fl 1d1o 1cl 4k fel 2k f3l 1k 2l 1k 7l 2k 5l 9k 102l d0r 52k 22r 7k
5a5r 260o 1dl 3o 3dl 39o 7al da0o f0000l"

/-- The direction of a character. -/
def direction (c : Char) : Direction := (directions.of? c).getD .foreign

/-- A character makes a name one that is also written from right to left. -/
def turns (c : Char) : Bool := direction c ∈ [.right, .arabic]

/-- A label goes one way: its first character tells which one, and its last one,
marks aside, must end it that way. -/
def goesOneWay (label : List Char) : Bool :=
  let ds := label.map direction
  let last? := ds.reverse.find? (· ≠ .mark)
  match ds.head? with
  | none => true
  | some .left =>
    ds.all (· ∈ [.left, .digit, .neutral, .mark]) && last?.all (· ∈ [.left, .digit])
  | some .right =>
    ds.all (· ∈ [.right, .arabic, .digit, .neutral, .mark])
      && last?.all (· ∈ [.right, .arabic, .digit])
      && !(ds.contains .digit && ds.contains .arabic)
  | some _ => false

end PoolScaler.Web.Idna
