import PoolScaler.Web.Exchange
set_option autoImplicit false

/-!
# Where a response begins and ends

The lines of a response between its status and its body, and how much of what
is sent after them is the body: nothing, so many bytes, a row of chunks, or
all there is.
-/

namespace PoolScaler.Web

/-! ## Lines -/

/-- What follows the end of a line. -/
def lineEnd? : List Char → Option (List Char)
  | '\n' :: rest => some rest
  | '\r' :: '\n' :: rest => some rest
  | _ => none

/-- A line with the name and the value of a header; there are no blanks around
the name, and those around the value do not count. -/
def headerLine? (cs : List Char) : Option ((String × String) × List Char) :=
  let name := cs.takeWhile isNameChar
  match cs.drop name.length with
  | ':' :: rest =>
    let value := rest.takeWhile isValueChar
    if name.isEmpty then none
    else (lineEnd? (rest.drop value.length)).map fun rest =>
      ((String.ofList (name.map Char.toLower), String.ofList (Text.stripBoth isPad value)), rest)
  | _ => none

/-- So many headers at most, the empty line after them, and what follows it. -/
def headerLines? : Nat → List Char → Option (List (String × String) × List Char)
  | 0, cs => (lineEnd? cs).map fun rest => ([], rest)
  | n + 1, cs =>
    match lineEnd? cs with
    | some rest => some ([], rest)
    | none =>
      match headerLine? cs with
      | none => none
      | some (header, rest) =>
        (headerLines? n rest).map fun (headers, rest) => (header :: headers, rest)

/-- How many headers a response may have. -/
def headerLimit : Nat := 100

/-! ## Chunks -/

/-- The size that a chunk states in a line of its own, which may go on after a
semicolon, and what follows. -/
def chunkSize? (bytes : List UInt8) : Option (Nat × List UInt8) :=
  let char (b : UInt8) : Char := Char.ofNat b.toNat
  let digits := bytes.takeWhile fun b => (Text.hexValue? (char b)).isSome
  let rest := (bytes.drop digits.length).dropWhile fun b => isPad (char b)
  let rest := match rest with
    | 0x3B :: _ => rest.dropWhile fun b => b ≠ 0x0D && b ≠ 0x0A
    | _ => rest
  match digits, Text.hexValues? (digits.map char), rest with
  | _ :: _, some n, 0x0D :: 0x0A :: rest => if n < UInt64.size then some (n, rest) else none
  | _, _, _ => none

/-- The body that so many chunks at most make up; the last one is empty. -/
def joinChunks : Nat → List UInt8 → Option (List UInt8)
  | 0, _ => none
  | limit + 1, bytes =>
    match chunkSize? bytes with
    | none => none
    | some (0, rest) =>
      if (headerLines? headerLimit (rest.map fun b => Char.ofNat b.toNat)).isSome then some []
      else none
    | some (size, rest) =>
      if rest.length < size then none
      else match rest.drop size with
        | 0x0D :: 0x0A :: more => (joinChunks limit more).map fun body => rest.take size ++ body
        | _ => none

/-! ## Bodies -/

/-- How the end of a body is told. -/
inductive Extent where
  /-- There is no body. -/
  | nothing
  /-- The body has so many bytes. -/
  | bytes (n : Nat)
  /-- The body comes in chunks. -/
  | chunks
  /-- The body ends with the connection. -/
  | rest
  deriving DecidableEq, Repr, Inhabited

/-- The length that one or more headers state, if they all state the same. -/
def statedLength? (values : List String) : Option Nat :=
  let parts := values.flatMap fun v =>
    if isVisible v then (v.splitOn ",").map fun p => Text.trim p.toList else [[]]
  match parts.mapM fun p => (Text.readDigits? p).filter (· < UInt64.size) with
  | some (n :: more) => if more.all (· == n) then some n else none
  | _ => none

/-- How the body of a response ends.  After a status that only informs another
response would have to follow. -/
def extent? (status : Nat) (headers : List (String × String)) : Option Extent :=
  let values (name : String) : List String :=
    (headers.filter fun h => h.1 = name).map fun h => h.2
  if status = 101 ∨ status = 204 ∨ status = 304 then some .nothing
  else if status < 200 then none
  else match (values "transfer-encoding").getLast?, values "content-length" with
    | some coding, _ =>
      let last := ((coding.splitOn ",").getLast?.getD "").toList
      some (if isVisible coding && (Text.trim last).map Char.toLower = "chunked".toList then .chunks
        else .rest)
    | none, [] => some .rest
    | none, values => (statedLength? values).map .bytes

/-- The response that is received when a status, lines of headers and bytes
after them are sent and the connection is closed. -/
def received? (status : Nat) (lines : List Char) (sent : List UInt8) : Option Response :=
  if status < 100 ∨ 999 < status then none
  else do
    let (headers, rest) ← headerLines? headerLimit lines
    let sent := Text.Utf8.encode (String.ofList rest) ++ sent
    match ← extent? status headers with
    | .nothing => return ⟨status, headers, [], true⟩
    | .bytes n => return ⟨status, headers, sent.take n, n ≤ sent.length⟩
    | .rest => return ⟨status, headers, sent, true⟩
    | .chunks =>
      let body := joinChunks (sent.length + 1) sent
      return ⟨status, headers, body.getD [], body.isSome⟩

example : received? 100 "\n".toList [] = none := by decide +kernel

end PoolScaler.Web
