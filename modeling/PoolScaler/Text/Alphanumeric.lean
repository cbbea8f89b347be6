import PoolScaler.Text.Runs
set_option autoImplicit false

/-!
# Letters, digits and marks

The characters that are letters, or count as letters, those that stand for numbers,
and those that belong to the one before them: accents, vowel signs and what
encloses.  All of them in all scripts.
-/

namespace PoolScaler.Text

/-- The runs of code points with the property `Alphabetic` or a category of
numbers, and the runs between them. -/
def alphanumerics : Runs Char := .ofLetters "
30n ay 7n 1ay 6n 1ay 2fn 1y 7n 2y 1n 1y 3n 2y 1n 3y 1n 17y 1n 1fy 1n 1cay 4n cy en 5y 7n 1y 1n
1y 56n 1y 1dn 12y 1n 2y 2n 4y 1n 1y 6n 1y 1n 3y 1n 1y 1n 14y 1n 53y 1n 8by 8n a6y 1n 26y 2n 1y
6n 29y 27n ey 1n 1y 1n 2y 1n 2y 1n 1y 8n 1by 4n 4y 1dn by 5n 38y 1n 11y 4n 66y 1n 8y 4n 8y 4n
10y 2n 1y 10n 30y dn 65y en 2by 9n 2y 4n 1y 5n 18y 2n 13y 13n 19y 7n by 5n 18y 1n 7y 7n 1y 8n
2ay an cy 3n 7y 6n 4cy 1n 10y 1n 3y 4n fy 2n ay 1n 13y 1n 8y 2n 2y 2n 16y 1n 7y 1n 1y 3n 4y 3n
8y 2n 2y 2n 2y 1n 1y 8n 1y 4n 2y 1n 5y 2n cy 2n 6y 2n 1y 4n 3y 1n 6y 4n 2y 2n 16y 1n 7y 1n 2y 1n
2y 1n 2y 4n 5y 4n 2y 2n 2y 4n 1y 7n 4y 1n 1y 7n 10y bn 3y 1n 9y 1n 3y 1n 16y 1n 7y 1n 2y 1n 5y
3n 9y 1n 3y 1n 2y 3n 1y fn 4y 2n ay 9n 4y 4n 3y 1n 8y 2n 2y 2n 16y 1n 7y 1n 2y 1n 5y 3n 8y 2n 2y
2n 2y 9n 2y 4n 2y 1n 5y 2n ay 1n 7y an 2y 1n 6y 3n 3y 1n 4y 3n 2y 1n 1y 1n 2y 3n 2y 3n 3y 3n cy
4n 5y 3n 3y 1n 3y 3n 1y 6n 1y en dy dn dy 1n 3y 1n 17y 1n 10y 3n 8y 1n 3y 1n 3y 8n 2y 1n 3y 1n
2y 2n 4y 2n ay 8n 7y 1n 4y 1n 8y 1n 3y 1n 17y 1n ay 1n 5y 3n 8y 1n 3y 1n 3y 8n 2y 5n 3y 1n 4y 2n
ay 1n 3y cn dy 1n 3y 1n 29y 2n 8y 1n 3y 1n 3y 1n 1y 5n 10y 2n 13y 1n 6y 1n 3y 1n 12y 3n 18y 1n
9y 1n 1y 2n 7y 8n 6y 1n 1y 1n 8y 6n ay 2n 2y dn 3ay 5n 7y 6n 1y 2n ay 27n 2y 1n 1y 1n 5y 1n 18y
1n 1y 1n 13y 1n 3y 2n 5y 1n 1y 6n 1y 2n ay 2n 4y 20n 1y 1fn 14y cn 8y 1n 24y 4n 13y 4n 10y 1n
24y 43n 37y 1n 1y 2n fy 6n 4ey 2n 26y 1n 1y 5n 1y 2n 2by 1n 14dy 1n 4y 2n 7y 1n 1y 1n 4y 2n 29y
1n 4y 2n 21y 1n 4y 2n 7y 1n 1y 1n 4y 2n fy 1n 39y 1n 4y 2n 43y en 14y 3n 10y 10n 56y 2n 6y 3n
26cy 2n 11y 1n 1ay 5n 4by 3n by 7n 14y bn 15y cn 14y cn dy 1n 3y 1n 2y cn 34y 2n 13y en 1y 4n 1y
3n ay 6n ay 16n ay 6n 59y 7n 2by 5n 46y an 1fy 1n cy 4n 9y dn 28y 2n 5y bn 2cy 4n 1ay 6n by 25n
1cy 4n 3fy 2n 14y bn ay 6n ay dn 1y 17n 2y bn 3y 31n 34y 1n fy 1n 8y 3n ay 26n 2ay 2n 3ay 1n by
en 37y 9n ay 3n 31y 2n by 5n 2by 2n 3y 29n 4y 1n 6y 1n 2y 3n 1y 5n c0y 13n 22y bn 116y 2n 6y 2n
26y 2n 6y 2n 8y 1n 1y 1n 1y 1n 1y 1n 1fy 2n 35y 1n 7y 1n 1y 3n 3y 1n 7y 3n 4y 2n 6y 4n dy 5n 3y
1n 7y 73n 2y 2n 6y 5n by 6n dy 65n 1y 4n 1y 2n ay 1n 1y 3n 5y 6n 1y 1n 1y 1n 1y 1n 4y 1n by 2n
4y 5n 5y 4n 1y 1n 3ay 2d6n 3cy 1an 4ay 276n 1ey 46cn e5y 6n 4y 3n 2y 9n 1y 2n 26y 1n 1y 5n 1y 2n
38y 7n 1y 10n 17y 9n 7y 1n 7y 1n 7y 1n 7y 1n 7y 1n 7y 1n 7y 1n 7y 1n 20y 2fn 1y 1d5n 3y 19n 9y
7n 5y 2n 5y 4n 56y 6n 3y 1n 5ay 1n 4y 5n 2by 1n 5ey 3n 4y an 20y 30n 10y 20n ay 1en 8y 1n fy 20n
ay 27n fy 140n 19c0y 40n 568dy 43n 2ey 2n 10dy 3n 1cy 14n 2fy 5n 8y 3n 71y 27n 9y 2n 67y 2n 52y
14n 15y 1n 21y 8n 6y an 34y cn 44y 1n 1y an ay 18n 6y 3n 1y 1n 2ey 5n 23y dn 1dy 3n 33y 1n cy fn
by 6n 1fy 1n 37y 9n ey 2n ay 6n 17y 3n 45y 1n 1y 1n 1y 18n 3y 2n 10y 2n 4y bn 6y 2n 6y 2n 6y 9n
7y 1n 7y 1n 2by 1n ey 6n 7by 5n ay 6n 2ba4y cn 17y 4n 31y 2104n 16ey 2n 6ay 26n 7y cn 5y 5n cy
1n dy 1n 5y 1n 1y 1n 2y 1n 2y 1n 6cy 21n 16by 12n 40y 2n 36y 28n cy 74n 5y 1n 87y 13n ay 7n 1ay
6n 1ay bn 59y 3n 6y 2n 6y 2n 6y 2n 3y 23n cy 1n 1ay 1n 13y 1n 2y 1n fy 2n ey 22n 7by cn 2dy cn
39y 11n 2y f4n 1dy 3n 31y 10n 1by 4n 24y 9n 1ey 5n 2by 5n 1ey 2n 24y 4n 8y 1n 5y 2an 9ey 2n ay
6n 24y 4n 24y 4n 28y 8n 34y cn by 1n fy 1n 7y 1n 2y 1n by 1n fy 1n 7y 1n 2y 3n 34y cn 137y 9n
16y an 8y 18n 6y 1n 2ay 1n 9y 45n 6y 2n 1y 1n 2cy 1n 2y 3n 1y 2n 17y 2n 1fy 2n 26y 8n 9y 30n 13y
1n 2y 5n 21y 4n 1ay 6n 1ay 26n 38y 4n 14y 2n 32y 1n 2y 5n 8y 1n 3y 1n 1dy an 9y 17n 1fy 1n 20y
20n 8y 1n 1cy 6n 5y 10n 36y an 16y 2n 1by 5n 1ay 17n 7y 50n 49y 37n 33y dn 33y 7n 2ey 8n ay 6n
26y 3n 1y 5n 17y dan 1fy 1n 2ay 1n 2y 3n 2y 10n 6y 32n 3y 3n 28y 8n 16y bn 4y 1bn 12y 2en 1cy
14n 17y 9n 46y cn 1ey 1n 5y an 39y 9n 1y dn 19y 7n ay 6n 33y 3n ay 4n 4y 8n 23y 3n 1y 9n 40y 1n
4y 9n dy 1n 1y 4n 14y bn 12y 1n 22y 2n 1y 6n 4y 3en 7y 1n 1y 1n 4y 1n fy 1n ay 7n 39y 7n ay 6n
4y 1n 8y 2n 2y 2n 16y 1n 7y 1n 2y 1n 5y 3n 8y 2n 2y 2n 2y 3n 1y 6n 1y 5n 7y 1cn ay 1n 1y 2n 1y
1n 26y 1n ay 1n 1y 2n 1y 1n 4y 1n 2y 3n 1y 1n 1y 2cn 42y 1n 3y 1n 4y 5n ay 5n 3y 1en 42y 2n 2y
1n 1y 8n ay a6n 36y 2n 7y 19n 6y 22n 3fy 1n 1y 3n 1y bn ay 26n 36y 2n 1y 7n ay 6n 14y 1cn 1by 2n
ey 5n cy 4n 7y b9n 39y 67n 53y cn 8y 2n 1y 2n 8y 1n 2y 1n 1ey 1n 2y 2n 2y 2n 4y dn ay 46n 8y 2n
2ey 2n 6y 1n 1y 1n 2y 1bn 33y 2n ay 11n 48y 5n 1y 12n 49y 67n 8y 58n 21y fn ay 6n 9y 1n 2dy 1n
7y 1n 1y fn 1dy 5n 1ey 2n 16y 1n ey 49n 7y 1n 2y 1n 2cy 3n 1y 1n 2y 1n 3y 1n 1y 2n 2y 8n ay 6n
6y 1n 2y 1n 25y 1n 2y 1n 4y 1n 1y 7n ay 6n 2cy 4n ay f6n 17y 9n 11y 1n 29y 3n 3y fn ay 56n 1y fn
15y 2bn 39ay 66n 6fy 11n c4y a4cn 61y fn 430y 11n 6y 19n f9by 5n 247y 1ab9n 2fy 1n ay 6c6n 239y
7n 1fy 1n ay 6n 4fy 1n ay 6n 1ey 12n 30y 10n 4y cn ay 1n 7y 1n 15y 5n 13y 1b0n 2dy 3n ay c6n 57y
9n 19y 2n 19y 2cn 4by 4n 39y 7n 11y 40n 2y 1n 1y cn 7y 9n 1cd6y 29n 20y 61n 73y 21fdn 4y 1n 7y
1n 2y 1n 123y fn 1y 1dn 3y 2n 1y en 4y 8n 18cy 904n 6by 5n dy 3n 9y 7n ay 4n 1y 1051n ay 5c6n
14y cn 14y 6cn 19y 87n 55y 1n 47y 1n 2y 2n 1y 2n 2y 2n 4y 1n cy 1n 1y 1n 7y 1n 41y 1n 4y 2n 8y
1n 7y 1n 1cy 1n 4y 1n 5y 1n 1y 3n 7y 1n 154y 2n 19y 1n 19y 1n 1fy 1n 19y 1n 1fy 1n 19y 1n 1fy 1n
19y 1n 1fy 1n 19y 1n 8y 2n 32y 700n 1fy 6n 6y d5n 7y 1n 11y 2n 7y 1n 2y 1n 5y 5n 3ey 21n 1y 70n
2dy an 7y 2n ay 4n 1y 141n 1ey 12n 2cy 4n ay 1d6n 1cy 4n ay d6n 1ey 2n by c5n 1fy 1n 16y 8n 2y
e0n 7y 1n 4y 1n 2y 1n fy 1n c5y 2n 9y 30n 44y 3n 1y 3n 1y 4n ay 317n 3by 1n 3y 1n 4y 4cn 2dy 1n
fy c2n 4y 1n 1by 1n 2y 1n 1y 2n 1y 1n ay 1n 4y 1n 1y 1n 1y 6n 1y 4n 1y 1n 1y 1n 1y 1n 3y 1n 2y
1n 1y 2n 1y 1n 1y 1n 1y 1n 1y 1n 1y 1n 2y 1n 1y 2n 4y 1n 7y 1n 4y 1n 4y 1n 1y 1n ay 1n 11y 5n 3y
1n 5y 1n 11y 244n dy 23n 1ay 6n 1ay 6n 1ay a66n ay 406n a6e0y 20n 111ey 2n 168ey 2n 1d31y fn
26ey 9a2n 21ey 5e2n 134by 5n 212ay dcb86n"

/-- A character is a letter or stands for a number. -/
def isAlphanumeric (c : Char) : Bool := alphanumerics.of? c = some 'y'

/-- The runs of code points with a category of marks, and those between them. -/
def marks : Runs Char := .ofLetters "
300n 70y 113n 7y 107n 2dy 1n 1y 1n 2y 1n 2y 1n 1y 48n by 30n 15y 10n 1y 65n 7y 2n 6y 2n 2y 1n 4y
23n 1y 1en 1by 5bn by 3an 9y 9n 1y 18n 4y 1n 9y 1n 3y 1n 5y 2bn 3y 3bn 9y 2an 18y 1n 21y 36n 3y
1n 12y 1n 7y an 2y 1dn 3y 38n 1y 1n 7y 2n 2y 2n 3y 9n 1y an 2y 1an 1y 2n 3y 38n 1y 1n 5y 4n 2y
2n 3y 3n 1y 1en 2y 3n 1y bn 3y 38n 1y 1n 8y 1n 3y 1n 3y 14n 2y 16n 6y 1n 3y 38n 1y 1n 7y 2n 2y
2n 3y 7n 3y an 2y 1en 1y 3bn 5y 3n 3y 1n 4y 9n 1y 28n 5y 37n 1y 1n 7y 1n 3y 1n 4y 7n 2y bn 2y
1dn 3y 38n 1y 1n 7y 1n 3y 1n 4y 7n 2y bn 2y fn 1y cn 4y 37n 2y 1n 7y 1n 3y 1n 4y 9n 1y an 2y 1dn
3y 46n 1y 4n 6y 1n 1y 1n 8y 12n 2y 3dn 1y 2n 7y cn 8y 62n 1y 2n 9y bn 7y 49n 2y 1bn 1y 1n 1y 1n
1y 4n 2y 31n 14y 1n 2y 5n by 1n 24y 9n 1y 64n 14y 17n 4y 4n 3y 1n 3y 2n 7y 3n 4y dn cy 1n 1y an
4y 2bfn 3y 3b2n 4y 1cn 3y 1dn 2y 1en 2y 40n 20y 9n 1y 2dn 3y 1n 1y 75n 2y 22n 1y 76n cy 4n cy
dbn 5y 39n ay 1n 1dy 2n 1y 30n 2ey 2n cy 14n 5y 2fn 11y 26n 9y cn 3y 1en dy 38n ey 30n 14y 98n
3y 1n 15y 4n 1y 6n 1y 2n 3y c6n 40y 2d0n 21y bfen 3y 8dn 1y 60n 20y 22an 6y 69n 2y 75d4n 4y 1n
ay 20n 2y 50n 2y 110n 1y 3n 1y 4n 1y 17n 5y 4n 1y 53n 2y 32n 12y 1an 12y dn 1y 26n 8y 19n dy 2cn
4y 2fn ey 24n 1y 43n ey cn 1y 8n 2y 2dn 3y 32n 1y 1n 3y 2n 2y 5n 2y 1n 1y 29n 5y 5n 2y ecn 8y 1n
2y 4f30n 1y 2e1n 10y 10n 10y 3cdn 1y e2n 1y 95n 5y 686n 3y 1n 2y 5n 4y 28n 3y 4n 1y a5n 2y 23dn
4y 41n 5y 13dn 2y 4dn 6y 46n by 31n 4y 7an 3y 35n fy 29n 1y 2n 2y an 4y 2dn by 7n 1y 3dn 3y 24n
ey 10n 2y 2cn 1y cn 3y 30n ey 8n 4y 1n 2y 5cn cy 6n 1y 2n 1y 9dn cy 15n 4y 37n 2y 1n 7y 2n 2y 2n
3y 9n 1y an 2y 2n 7y 3n 5y 43n 9y 1n 1y 2n 1y 1n 4y 1n 5y 1n 1y en 2y 52n 12y 17n 1y 51n 14y ebn
7y 2n 9y 1bn 2y 52n 11y 6an dy 65n fy 100n fy f5n 6y 1n 2y 2n 4y 1n 1y 1n 2y 8dn 7y 2n 7y 3n 1y
1cn ay 28n 7y 1n 4y 8n 1y 9n by 2en 10y c6n 8y c7n 8y 1n 8y 52n 16y 1n ey 7an 6y 3n 1y 1n 2y 1n
7y 1n 1y 42n 5y 1n 2y 1n 5y 15bn 4y 9n 2y 1n 1y 30n 7y 3n 5y 17n 1y 14e5n 1y 6n fy 2cc8n 12y
9c0n 5y 3bn 7y 418n 1y 1n 37y 7n 4y 51n 1y bn 2y 4cabn 2y 1261n 2ey 2n 17y 21en 5y 3n 6y 8n 8y
2n 7y 1en 4y 94n 3y 7bbn 37y 4n 32y 8n 1y en 1y 16n 5y 1n fy 550n 7y 1n 11y 2n 7y 1n 2y 1n 5y
64n 1y a0n 7y 177n 1y 3dn 4y 1fcn 4y fen 2y f3n 1y 2n 1y 7n 2y 5n 1y 1dan 7y 6dn 7y c17b5n f0y
2fe10n"

/-- A character is a mark. -/
def isMark (c : Char) : Bool := marks.of? c = some 'y'

end PoolScaler.Text
