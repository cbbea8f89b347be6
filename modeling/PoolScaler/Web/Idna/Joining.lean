import PoolScaler.Text.Compose
set_option autoImplicit false

/-!
# Joiners in names

Two characters without a shape of their own tell whether the letters around
them are joined.  A name may have them only where they make a difference.
-/

namespace PoolScaler.Web.Idna

/-- How a character joins the ones around it. -/
inductive Joining where
  /-- On both sides. -/
  | both
  /-- With the one after it. -/
  | next
  /-- With the one before it. -/
  | previous
  /-- Not itself, but those around it do through it. -/
  | through
  /-- Not at all. -/
  | none
  deriving DecidableEq, Repr, Inhabited

/-- The joining of a letter of the table. -/
def Joining.read : Char → Joining
  | 'q' => both
  | 'l' => next
  | 'r' => previous
  | 't' => through
  | _ => none

/-- The runs of joining.  Characters that no name has go with those before them. -/
def joinings : Text.Runs Joining := .ofText (fun _ kind _ => .read kind) "
300u 71t 112u 8t 106u 2dt 1u 1t 1u 2t 1u 2t 1u 9t 40u bt 5u 1q 1u 4r 1q 1r 1q 1r 5q 4r dq 1u 7q
1r 2q 15t eu 2q 1t 3r 5u fq 12r 26q 1r 2q 9r 1q 1r 1q 1r 2q 2r 1u 1r 8t 1u 6t 2u 2t 1u 4t 2r au
3q 2u 1q 10u 1r 1t 3q 5r 4q 1r 9q 1r 1q 1r 1q 1r 2q 1r 1dt 1r bq 3r fq 2r 4q 1r 1q 2r 3q 2r 6q
26u bt 19u 21q 9t 9u 1t 18u 4t 1u 9t 1u 3t 1u 7t 10u 1r 5q 2r 1q 1r aq 1r 1q 3r 5t 2u 1q 1u 4q
1u 1r 1q 1ar 3u 1q 2u 5q 1r 8q 9t aq 3r 1u 1r 2q 2r 6q 1r fq 1u 39t 37u 1t 1u 1t 4u 8t 4u 1t 3u
ft 2u 2t 1du 1t 3au 1t 4u 6t 6u 1t 14u 4t 18u 5t 39u 2t 3u 1bt 14u 2t 3u 1t bu 2t 39u 1t 4u 8t
4u 3t 12u 4t 14u 8t 3au 1t 2u 1t 1u 6t 6u at bu 4t 1cu 1t 3du 1t cu 3t 30u 1t 3u 1t 37u 1t 1u 3t
5u 12t au 4t 1bu 1t 3au 1t 2u 1t 6u 1t 5u 9t du 4t 1au 2t 39u 2t 4u 5t 7u 1t 14u 4t 1bu 1t 48u
5t 3u 6t 59u 1t 2u bt 8u 8t 62u 1t 2u 9t bu 8t 48u 2t 1bu 1t 1u 1t 1u 1t 37u et 1u 5t 1u 2t 5u
31t 8u 1t 66u 4t 1u 6t 1u 2t 2u 2t 19u 2t 4u 3t 10u 4t du 1t 2u 2t 6u 1t fu 1t 2bfu 3t 3b2u 3t
1du 2t 1eu et 12u et 37u 7t 8u 1t 2u bt 9u 3t 27u 1q 18u 60q 5u 2t 22q 1t 6q 70u 3t 4u 2t 9u 1t
6u 7t d7u 2t 2u 3t 38u 1t 1u 9t 1u 1t 2u 8t 6u dt 30u 54t 30u 1t 1u 5t 1u 1t 5u 1t 28u 9t cu 2t
20u 4t 2u 2t 1u 3t 38u 1t 1u 2t 3u 1t 1u 3t 3au 8t 2u 5t 95u 3t 1u dt 1u 7t 4u 1t 6u 1t 3u 2t
c6u 41t 2cfu 34t bebu 4t 8cu 1t 60u 20t 22au 4t 6bu 4t 75d2u 4t 1u at 20u 2t 50u 2t 110u 1t 3u
1t 4u 1t 19u 2t 5u 4t 10u 32q 1l 51u at 12u 12t du 1t 26u 8t 19u bt 2eu 3t 30u 1t 2u 4t 2u 2t
27u 1t 43u 6t 2u 2t 2u bt 3u 1t 8u 1t 2fu 1t 33u 1t 1u 3t 2u 2t 5u 2t 1u 1t 2au 2t 8u bt e4u 1t
2u 1t 4u 3t 4f2eu 94t 26eu 25t 3b8u 83t 60u 1t 95u at 681u ft 28u 8t 80u 5q 1r 1u 1r 1u 2r 2u 1l
5r 4q 1l 5q 1r 3q 1r 2u 1r 6t 4q 1r 90u 1q 1r 1q 3r 3q 1r 2q 1r 1q 2r 1q 8r 10u 4r 2q 151u 1l
21q 1r 1q ct 39u 5t 13du 2t 15u 1r 2q 1u aq 2au 6t 30u 3q 1r 11q 1u bt 3q 1r 1bu 4q 2r cq 4t 2au
1q 1u 2q 3r 1u 1q 2r 2q 1r 2q 1u 1q 2r 1q 4u 1r 1q 15l 21u 1t 36u ft 29u 1t 2u 2t au 3t 31u 4t
2u 2t 7u et 30u 3t 24u 5t 1u 9t 3du 1t cu 2t 34u 9t au 4t 2u 1t 5fu 3t 2u 1t 1u 2t 6u 1t 2u 3ft
5fu 1t 3u dt 10u 2t 39u 2t 3u 1t 25u 1at 3bu 7t cu 1t 1u 1t 1u 1t eu 1ft 38u 8t 2u 3t 1u 1t 17u
1t 54u 6t 1u 1t 4u 2t 1u 2t eeu 6t 4u 2t 1u 2t 1bu 24t 33u 8t 2u 1t 1u 2t 6au 1t 1u 1t 2u 6t 1u
1t 65u 1t 1u 1t 2u 4t 1u 9t ffu 9t 1u 2t 100u 2t 1u 1t 4u 1t 90u 8t 4u 1t 20u at 28u 6t 2u 4t 8u
9t 1u 6t 2u 3t 2eu dt 1u 2t c6u 1t 1u 3t 1u 1t c9u et 1u 1t 52u 17t 1u 7t 1u 2t 1u 4bt 31u 15t
1u 9t 40u 3t 2u 1t 1u 1t 15bu 2t bu 2t 34u 8t 2u 1t 1u 1t 17u 56t 1490u 1t 6u 19t 2cbeu ct 3u 3t
9c0u 5t 3bu 7t 418u 1t 3fu 4t 51u ct 4cadu 2t 1261u 50t 217u 3t 11u 8t 2u 7t 1eu 4t 94u 3t 7bbu
37t 4u 32t 8u 1t eu 1t 16u 465t 100u 100t 30u 7t 177u 12t 2cu 4t 1fcu 4t feu 2t f3u 1t 2u 1t 7u
2t 5u 9t 1d2u 52t 22q ct f16b0u"

/-- How a character joins the ones around it. -/
def joining (c : Char) : Joining := (joinings.of? c).getD .none

/-- A sign that takes away the vowel of the consonant before it. -/
def isVirama (c : Char) : Bool := Text.Compose.classOf c = 9

/-- The character that keeps letters apart. -/
def nonJoiner : Char := '\u200c'

/-- The character that joins letters. -/
def joiner : Char := '\u200d'

/-- The first joining that is not through. -/
def reach (cs : List Char) : Joining :=
  ((cs.map joining).find? (· ≠ .through)).getD .none

/-- Each joiner stands where it makes a difference: after a virama, or, if it
keeps letters apart, between letters that would join.  `before` has the
characters before the place, last one first. -/
def joinersFit (before : List Char) : List Char → Bool
  | [] => true
  | c :: rest =>
    let fits :=
      if c = joiner then before.head?.any isVirama
      else if c = nonJoiner then
        before.head?.any isVirama
          || (reach before ∈ [.next, .both] && reach rest ∈ [.previous, .both])
      else true
    fits && joinersFit (c :: before) rest

end PoolScaler.Web.Idna
