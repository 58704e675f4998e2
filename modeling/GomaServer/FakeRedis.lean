import Mathlib.Data.List.Basic
import Mathlib.Algebra.Group.Int
import Mathlib.Algebra.Group.Nat.Basic

/-!
# The fake redis server

`FakeServer` of the redis package serves the tests of the redis client. It reads
each request as a RESP array of bulk strings through a `bufio.Reader` with a
4096-byte buffer, answers `+OK` to a `SET` and a fixed ten-byte value to anything
else, and keeps the last request it read.
-/

namespace GomaServer.Redis

/-- The bytes of an ASCII text, as Go's `[]byte(s)` gives them. -/
def asciiBytes (s : String) : List UInt8 := s.data.map fun c => UInt8.ofNat c.toNat

/-! ## bufio.Reader.ReadLine -/

/-- The size of the buffer of `bufio.NewReader`. -/
def defaultBufSize : Nat := 4096

/-- The bytes before the first `\n` among the first `n` bytes of `s`, and the bytes
after that `\n`. -/
def splitLine : Nat → List UInt8 → Option (List UInt8 × List UInt8)
  | 0, _ => none
  | _ + 1, [] => none
  | n + 1, b :: s =>
      if b = 10 then some ([], s) else (splitLine n s).map fun p => (b :: p.1, p.2)

/-- A line without the `\r` before its `\n`. -/
def dropCR (line : List UInt8) : List UInt8 :=
  if line.getLast? = some 13 then line.dropLast else line

/-- `ReadLine` on a reader whose unread bytes, up to the end of the connection, are
`s`: the line, whether it is only the beginning of a line longer than the buffer, and
the bytes left; `none` is the error at the end of the connection. A line too long for
the buffer comes back a buffer at a time, and a `\r` that ends a buffer is left for
the next call. -/
def readLine (s : List UInt8) : Option (List UInt8 × Bool × List UInt8) :=
  if s = [] then none
  else
    match splitLine defaultBufSize s with
    | some (line, rest) => some (dropCR line, false, rest)
    | none =>
        if s.length < defaultBufSize then some (s, false, [])
        else if s[defaultBufSize - 1]? = some 13 then
          some (s.take (defaultBufSize - 1), true, s.drop (defaultBufSize - 1))
        else some (s.take defaultBufSize, true, s.drop defaultBufSize)

theorem splitLine_append {n : Nat} {line : List UInt8} (rest : List UInt8) (noLF : 10 ∉ line)
    (fits : line.length < n) : splitLine n (line ++ 10 :: rest) = some (line, rest) := by
  induction line generalizing n with
  | nil =>
      obtain ⟨n, rfl⟩ : ∃ m, n = m + 1 := ⟨n - 1, by simp at fits; omega⟩
      simp [splitLine]
  | cons b line ih =>
      obtain ⟨n, rfl⟩ : ∃ m, n = m + 1 := ⟨n - 1, by simp at fits; omega⟩
      have hb : b ≠ 10 := fun h => noLF (h ▸ List.mem_cons_self _ _)
      simp [splitLine, hb, ih (fun h => noLF (List.mem_cons_of_mem _ h)) (by simpa using fits)]

/-- A line ended by `\r\n` that fits the buffer reads back whole. -/
theorem readLine_crlf {line : List UInt8} (rest : List UInt8) (noLF : 10 ∉ line)
    (fits : line.length + 2 ≤ defaultBufSize) :
    readLine (line ++ 13 :: 10 :: rest) = some (line, false, rest) := by
  have split : splitLine defaultBufSize ((line ++ [13]) ++ 10 :: rest) = some (line ++ [13], rest) :=
    splitLine_append rest (by simpa using noLF) (by simp; omega)
  simp only [List.append_assoc, List.singleton_append] at split
  simp [readLine, split, dropCR]

/-! ## strconv.Atoi -/

/-- Whether a byte is a decimal digit. -/
def isDigit (c : UInt8) : Bool := 48 ≤ c.toNat && c.toNat ≤ 57

/-- The value of a list of decimal digits. -/
def digitsValue (digits : List UInt8) : Nat :=
  digits.foldl (fun n c => n * 10 + (c.toNat - 48)) 0

/-- `strconv.Atoi` on a 64-bit platform: an optional sign and at least one decimal
digit, of a value that fits an `int`. Its syntax and range errors are one `none`
here: `readRequest` wraps either into its own error. -/
def atoi (s : List UInt8) : Option Int :=
  let (neg, digits) : Bool × List UInt8 :=
    match s with
    | c :: ds => if c = 45 then (true, ds) else if c = 43 then (false, ds) else (false, s)
    | [] => (false, [])
  if digits ≠ [] ∧ digits.all isDigit then
    let v : Int := if neg then -(digitsValue digits : Int) else digitsValue digits
    if -2 ^ 63 ≤ v ∧ v < 2 ^ 63 then some v else none
  else none

/-- The decimal digits of `n`, most significant first, as `strconv.AppendInt` writes
them; `fuel` bounds their number. -/
def decimalGo : Nat → Nat → List UInt8
  | 0, _ => []
  | fuel + 1, n =>
      if n < 10 then [UInt8.ofNat (48 + n)]
      else decimalGo fuel (n / 10) ++ [UInt8.ofNat (48 + n % 10)]

/-- `n` in decimal. -/
def decimal (n : Nat) : List UInt8 := decimalGo (n + 1) n

theorem decimalGo_succ (fuel n : Nat) :
    decimalGo (fuel + 1) n =
      if n < 10 then [UInt8.ofNat (48 + n)]
      else decimalGo fuel (n / 10) ++ [UInt8.ofNat (48 + n % 10)] := rfl

theorem toNat_digit {d : Nat} (hd : d < 10) : (UInt8.ofNat (48 + d)).toNat = 48 + d :=
  UInt8.toNat_ofNat_of_lt (by show 48 + d < 256; omega)

theorem digitsValue_append_digit (digits : List UInt8) {d : Nat} (hd : d < 10) :
    digitsValue (digits ++ [UInt8.ofNat (48 + d)]) = digitsValue digits * 10 + d := by
  simp [digitsValue, toNat_digit hd]

theorem isDigit_digit {d : Nat} (hd : d < 10) : isDigit (UInt8.ofNat (48 + d)) = true := by
  simp [isDigit, toNat_digit hd]; omega

/-- The digits `decimalGo` writes: a non-empty list of digits of the value `n`, no
more of them than any `k` with `n < 10 ^ k`. -/
theorem decimalGo_spec : ∀ {fuel n : Nat}, n < 10 ^ (fuel + 1) →
    decimalGo (fuel + 1) n ≠ [] ∧ (decimalGo (fuel + 1) n).all isDigit ∧
      digitsValue (decimalGo (fuel + 1) n) = n ∧
      ∀ k, 0 < k → n < 10 ^ k → (decimalGo (fuel + 1) n).length ≤ k
  | fuel, n, h => by
      by_cases small : n < 10
      · rw [decimalGo_succ, if_pos small]
        refine ⟨List.cons_ne_nil _ _, by simp [isDigit_digit small], ?_, fun k hk _ => by simpa⟩
        simpa [show digitsValue [] = 0 from rfl] using digitsValue_append_digit [] small
      · cases fuel with
        | zero => simp at h; omega
        | succ fuel =>
            rw [decimalGo_succ, if_neg small]
            have high : n / 10 < 10 ^ (fuel + 1) := by
              rw [Nat.pow_succ] at h; omega
            obtain ⟨-, digits, value, len⟩ := decimalGo_spec high
            have last := Nat.mod_lt n (show 10 > 0 by omega)
            refine ⟨by simp, by simp [digits, isDigit_digit last], ?_, fun k hk hn => ?_⟩
            · rw [digitsValue_append_digit _ last, value]; omega
            · obtain ⟨k, rfl⟩ : ∃ j, k = j + 1 := ⟨k - 1, by omega⟩
              have pos : 0 < k := Nat.pos_of_ne_zero fun zero => by subst zero; simp at hn; omega
              have fewer := len k pos (by rw [Nat.pow_succ] at hn; omega)
              simp; omega

theorem decimal_spec (n : Nat) :
    decimal n ≠ [] ∧ (decimal n).all isDigit ∧ digitsValue (decimal n) = n ∧
      ∀ k, 0 < k → n < 10 ^ k → (decimal n).length ≤ k :=
  decimalGo_spec (Nat.lt_of_succ_lt (Nat.lt_pow_self (by decide : 1 < 10) (n + 1)))

theorem not_lf_mem_decimal (n : Nat) : 10 ∉ decimal n := fun mem =>
  absurd (List.all_eq_true.mp (decimal_spec n).2.1 10 mem) (by decide)

theorem length_decimal_le {n : Nat} (fits : n < 2 ^ 63) : (decimal n).length ≤ 19 :=
  (decimal_spec n).2.2.2 19 (by decide) (lt_trans fits (by decide))

theorem atoi_decimal {n : Nat} (fits : n < 2 ^ 63) : atoi (decimal n) = some (n : Int) := by
  obtain ⟨ne, digits, value, -⟩ := decimal_spec n
  obtain ⟨c, ds, split⟩ := List.exists_cons_of_ne_nil ne
  have digit : isDigit c = true := List.all_eq_true.mp digits c (split ▸ List.mem_cons_self _ _)
  have minus : c ≠ 45 := by rintro rfl; exact absurd digit (by decide)
  have plus : c ≠ 43 := by rintro rfl; exact absurd digit (by decide)
  simp only [atoi, split, if_neg minus, if_neg plus]
  rw [← split]
  simp [ne, digits, value]
  omega

/-! ## readRequest -/

/-- Why `readRequest` gives up on a connection: `ReadLine` failed, a line does not
hold the number it should (`wrong array`, `wrong bytes`), or a value is not as long
as announced (`unexpected value`). `handle` drops the error and closes. -/
inductive RequestError where
  | readLine
  | wrongArray (line : List UInt8)
  | wrongBytes (line : List UInt8)
  | unexpectedValue (sz : Int) (value : List UInt8)
  deriving DecidableEq, Repr

/-- The loop of `readRequest` over the `k` lines it has left: a line that does not
start with `$` is skipped, and any other announces the length of the value on the
next line. -/
def readValues : Nat → List UInt8 → Except RequestError (List (List UInt8)) × List UInt8
  | 0, s => (.ok [], s)
  | k + 1, s =>
      match readLine s with
      | none => (.error .readLine, s)
      | some (nline, _, s) =>
          if nline.head? ≠ some 36 then readValues k s
          else
            match atoi nline.tail with
            | none => (.error (.wrongBytes nline), s)
            | some sz =>
                match readLine s with
                | none => (.error .readLine, s)
                | some (value, _, s) =>
                    if sz ≠ value.length then (.error (.unexpectedValue sz value), s)
                    else
                      match readValues k s with
                      | (result, s) => (result.map (value :: ·), s)

/-- `readRequest`: the request and the bytes left after it. A first line that does
not start with `*` gives the empty request and no error, since the `err` returned
there is nil. The `line` the source accumulates is never read and is left out. -/
def readRequest (s : List UInt8) : Except RequestError (List (List UInt8)) × List UInt8 :=
  match readLine s with
  | none => (.error .readLine, s)
  | some (nline, _, s) =>
      if nline.head? ≠ some 42 then (.ok [], s)
      else
        match atoi nline.tail with
        | none => (.error (.wrongArray nline), s)
        | some n => readValues n.toNat s

/-! ## Requests as a client writes them -/

/-- A bulk string in RESP, the protocol of the client: `$<length>\r\n<bytes>\r\n`. -/
def encodeBulk (value : List UInt8) : List UInt8 :=
  36 :: decimal value.length ++ 13 :: 10 :: value ++ [13, 10]

/-- A request in RESP: an array of bulk strings, `*<count>\r\n` and the strings. -/
def encodeRequest (values : List (List UInt8)) : List UInt8 :=
  42 :: decimal values.length ++ 13 :: 10 :: values.flatMap encodeBulk

/-- A value `readRequest` can read back: no `\n` in it, and its line fits the
buffer of the reader. -/
def Fits (value : List UInt8) : Prop := 10 ∉ value ∧ value.length + 2 ≤ defaultBufSize

instance : DecidablePred Fits := fun _ => inferInstanceAs (Decidable (_ ∧ _))

/-- A header line, `*` or `$` and a number, reads back whole. -/
theorem readLine_header {b : UInt8} (hb : b ≠ 10) {n : Nat} (fits : n < 2 ^ 63)
    (rest : List UInt8) :
    readLine (b :: (decimal n ++ 13 :: 10 :: rest)) = some (b :: decimal n, false, rest) := by
  have noLF : 10 ∉ b :: decimal n := by
    simpa [Ne.symm hb] using not_lf_mem_decimal n
  have len := length_decimal_le fits
  exact readLine_crlf rest noLF (by simp [defaultBufSize]; omega)

theorem readValues_encodeBulk {v : List UInt8} (fits : Fits v) (k : Nat) (rest : List UInt8) :
    readValues (k + 1) (encodeBulk v ++ rest) =
      ((readValues k rest).1.map (v :: ·), (readValues k rest).2) := by
  obtain ⟨noLF, short⟩ := fits
  have vlen : v.length < 2 ^ 63 := lt_of_le_of_lt (by simp [defaultBufSize] at short; omega)
    (by decide : 4094 < 2 ^ 63)
  simp only [encodeBulk, List.cons_append, List.append_assoc, List.nil_append]
  rw [readValues, readLine_header (by decide) vlen]
  simp [atoi_decimal vlen, readLine_crlf _ noLF short]

/-- Values that fit read back in front of whatever the loop reads after them. -/
theorem readValues_encode {values : List (List UInt8)} (fits : ∀ v ∈ values, Fits v)
    (k : Nat) (rest : List UInt8) :
    readValues (values.length + k) (values.flatMap encodeBulk ++ rest) =
      ((readValues k rest).1.map (values ++ ·), (readValues k rest).2) := by
  induction values with
  | nil =>
      simp only [List.length_nil, Nat.zero_add, List.flatMap_nil, List.nil_append]
      rcases readValues k rest with ⟨_ | _, _⟩ <;> rfl
  | cons v values ih =>
      rw [List.length_cons, Nat.add_right_comm, List.flatMap_cons, List.append_assoc,
        readValues_encodeBulk (fits v (List.mem_cons_self _ _)),
        ih fun u mem => fits u (List.mem_cons_of_mem _ mem)]
      cases (readValues k rest).1 <;> rfl

/-- A request whose values fit reads back exactly, and the bytes after it are left
unread. -/
theorem readRequest_encodeRequest {values : List (List UInt8)} (fits : ∀ v ∈ values, Fits v)
    (count : values.length < 2 ^ 63) (rest : List UInt8) :
    readRequest (encodeRequest values ++ rest) = (.ok values, rest) := by
  simp only [encodeRequest, List.cons_append, List.append_assoc]
  rw [readRequest, readLine_header (by decide) count]
  simpa [atoi_decimal count, readValues, Except.map] using readValues_encode fits 0 rest

/-! ## Lines longer than the buffer -/

theorem splitLine_eq_none {n : Nat} {s : List UInt8} (noLF : 10 ∉ s.take n) :
    splitLine n s = none := by
  induction s generalizing n with
  | nil => cases n <;> rfl
  | cons b s ih =>
      cases n with
      | zero => rfl
      | succ n =>
          have hb : b ≠ 10 := fun h => noLF (by simp [h])
          simp [splitLine, hb, @ih n fun h => noLF (by simp [h])]

/-- A line with no `\n` in the buffer comes back one buffer at a time, less a `\r`
that ends the buffer. -/
theorem readLine_long {s : List UInt8} (noLF : 10 ∉ s.take defaultBufSize)
    (long : defaultBufSize ≤ s.length) :
    readLine s = if s[defaultBufSize - 1]? = some 13 then
        some (s.take (defaultBufSize - 1), true, s.drop (defaultBufSize - 1))
      else some (s.take defaultBufSize, true, s.drop defaultBufSize) := by
  have ne : s ≠ [] := fun h => by simp [h, defaultBufSize] at long
  simp [readLine, ne, splitLine_eq_none noLF, Nat.not_lt.mpr long]

/-! ## The connection -/

/-- The reply of `handle`: `+OK` to a request whose first value is `SET`, and the
ten-byte value to any other, taken for a `GET`. -/
def reply (request : List (List UInt8)) : List UInt8 :=
  if request.head? = some (asciiBytes "SET") then asciiBytes "+OK\r\n"
  else asciiBytes "$10\r\n0123456789\r\n"

/-- `handle` on a connection whose bytes are `s`: what it writes, and the request it
leaves in the server's `last`. It serves requests until one cannot be read; `fuel`
bounds the loop, which every request read moves on by at least a byte. -/
def handle : Nat → List (List UInt8) → List UInt8 → List UInt8 × List (List UInt8)
  | 0, last, _ => ([], last)
  | fuel + 1, last, s =>
      match readRequest s with
      | (.error _, _) => ([], last)
      | (.ok request, rest) =>
          match handle fuel request rest with
          | (out, last) => (reply request ++ out, last)

theorem handle_ok {fuel : Nat} {last request : List (List UInt8)} {s rest : List UInt8}
    (h : readRequest s = (.ok request, rest)) :
    handle (fuel + 1) last s =
      (reply request ++ (handle fuel request rest).1, (handle fuel request rest).2) := by
  rw [handle, h]

theorem handle_error {fuel : Nat} {last : List (List UInt8)} {s : List UInt8}
    {err : RequestError} (h : (readRequest s).1 = .error err) :
    handle (fuel + 1) last s = ([], last) := by
  rw [handle]
  rcases hr : readRequest s with ⟨_ | request, rest⟩
  · rfl
  · rw [hr] at h; cases h

/-- A request the client can send: values that fit, and not more than an `int` counts. -/
def Sendable (request : List (List UInt8)) : Prop :=
  (∀ v ∈ request, Fits v) ∧ request.length < 2 ^ 63

instance : DecidablePred Sendable := fun _ => inferInstanceAs (Decidable (_ ∧ _))

/-- Requests sent back to back are each answered once, in order, and the loop goes on
with what follows them from the last of them. -/
theorem handle_encodeRequests {requests : List (List (List UInt8))}
    (sendable : ∀ request ∈ requests, Sendable request) (rest : List UInt8) (fuel : Nat)
    (last : List (List UInt8)) :
    handle (requests.length + fuel) last (requests.flatMap encodeRequest ++ rest) =
      (requests.flatMap reply ++ (handle fuel (requests.getLast?.getD last) rest).1,
        (handle fuel (requests.getLast?.getD last) rest).2) := by
  induction requests generalizing last with
  | nil => simp
  | cons request requests ih =>
      obtain ⟨fits, count⟩ := sendable request (List.mem_cons_self _ _)
      rw [List.length_cons, Nat.add_right_comm, List.flatMap_cons, List.append_assoc,
        handle_ok (readRequest_encodeRequest fits count _),
        ih (fun r mem => sendable r (List.mem_cons_of_mem _ mem))]
      simp [List.getLast?_cons]

/-- A `SET` and a `GET` sent together get `+OK` and the value, and `last` is the
`GET`. -/
theorem handle_encodeRequests_set_get :
    (∀ request ∈ [[asciiBytes "SET", asciiBytes "key", asciiBytes "value"],
      [asciiBytes "GET", asciiBytes "key"]], Sendable request) ∧
    handle (2 + 1) [] ([[asciiBytes "SET", asciiBytes "key", asciiBytes "value"],
        [asciiBytes "GET", asciiBytes "key"]].flatMap encodeRequest ++ []) =
      ([[asciiBytes "SET", asciiBytes "key", asciiBytes "value"],
          [asciiBytes "GET", asciiBytes "key"]].flatMap reply ++
          (handle 1 [asciiBytes "GET", asciiBytes "key"] []).1,
        (handle 1 [asciiBytes "GET", asciiBytes "key"] []).2) :=
  ⟨by decide, @handle_encodeRequests [[asciiBytes "SET", asciiBytes "key", asciiBytes "value"],
    [asciiBytes "GET", asciiBytes "key"]] (by decide) [] 1 []⟩

/-! ## Values at the size of the buffer and beyond -/

/-- A value of 4095 bytes and its `\r` fill the buffer: the value reads back as a
prefix line, and its `\r\n` is left unread. -/
theorem readLine_fill {v : List UInt8} (noLF : 10 ∉ v) (len : v.length = defaultBufSize - 1)
    (rest : List UInt8) :
    readLine (v ++ 13 :: 10 :: rest) = some (v, true, 13 :: 10 :: rest) := by
  have window : (v ++ 13 :: 10 :: rest).take defaultBufSize = v ++ [13] := by
    rw [List.take_append_eq_append_take, List.take_of_length_le (by omega), len]
    rfl
  rw [readLine_long (by rw [window]; simpa using noLF) (by simp [defaultBufSize] at len ⊢; omega),
    List.getElem?_append_right (by omega), len, Nat.sub_self]
  simp [List.take_left' len, List.drop_left' len]

theorem readValues_fill {v : List UInt8} (noLF : 10 ∉ v) (len : v.length = defaultBufSize - 1)
    (rest : List UInt8) :
    readValues 1 (encodeBulk v ++ rest) = (.ok [v], 13 :: 10 :: rest) := by
  have vlen : v.length < 2 ^ 63 := by rw [len]; decide
  simp only [encodeBulk, List.cons_append, List.append_assoc, List.nil_append]
  rw [readValues, readLine_header (by decide) vlen]
  simp [atoi_decimal vlen, readLine_fill noLF len, readValues, Except.map]

/-- A request whose last value has 4095 bytes is answered twice: the `\r\n` left
after it reads as a line without `*`, so as one more, empty, request, which gets the
`GET` reply and becomes the server's `last`. -/
theorem handle_value_fills_buffer {pre : List (List UInt8)} (fits : ∀ u ∈ pre, Fits u)
    {v : List UInt8} (noLF : 10 ∉ v) (len : v.length = defaultBufSize - 1)
    (count : pre.length + 1 < 2 ^ 63) (rest : List UInt8) (fuel : Nat)
    (last : List (List UInt8)) :
    handle (fuel + 2) last (encodeRequest (pre ++ [v]) ++ rest) =
      (reply (pre ++ [v]) ++ reply [] ++ (handle fuel [] rest).1, (handle fuel [] rest).2) := by
  have request : readRequest (encodeRequest (pre ++ [v]) ++ rest) =
      (.ok (pre ++ [v]), 13 :: 10 :: rest) := by
    simp only [encodeRequest, List.length_append, List.length_singleton, List.flatMap_append,
      List.flatMap_singleton, List.cons_append, List.append_assoc]
    rw [readRequest, readLine_header (by decide) count]
    simp [atoi_decimal count, readValues_encode fits 1, readValues_fill noLF len, Except.map]
  have empty : readRequest (13 :: 10 :: rest) = (.ok [], rest) := by
    simp [readRequest, readLine, splitLine, dropCR, defaultBufSize]
  rw [handle_ok request, handle_ok empty, List.append_assoc]

/-- A `SET` of a 4095-byte value. -/
theorem handle_value_fills_buffer_set :
    (∀ u ∈ [asciiBytes "SET", asciiBytes "key"], Fits u) ∧
    10 ∉ List.replicate 4095 (120 : UInt8) ∧
    (List.replicate 4095 (120 : UInt8)).length = defaultBufSize - 1 ∧
    [asciiBytes "SET", asciiBytes "key"].length + 1 < 2 ^ 63 ∧
    handle (0 + 2) [] (encodeRequest ([asciiBytes "SET", asciiBytes "key"] ++
        [List.replicate 4095 120]) ++ []) =
      (reply ([asciiBytes "SET", asciiBytes "key"] ++ [List.replicate 4095 120]) ++ reply [] ++
          (handle 0 [] []).1, (handle 0 [] []).2) :=
  ⟨by decide, by rw [List.mem_replicate]; decide, by rw [List.length_replicate]; rfl, by decide,
    handle_value_fills_buffer (by decide) (by rw [List.mem_replicate]; decide)
      (by rw [List.length_replicate]; rfl) (by decide) [] 0 []⟩

/-- A value longer than the buffer does not read back whole, so its length does not
match: the request fails. -/
theorem readValues_too_long {v : List UInt8} (noLF : 10 ∉ v.take defaultBufSize)
    (long : defaultBufSize < v.length) (vlen : v.length < 2 ^ 63) (k : Nat)
    (rest : List UInt8) : ∃ err, (readValues (k + 1) (encodeBulk v ++ rest)).1 = .error err := by
  have window : (v ++ 13 :: 10 :: rest).take defaultBufSize = v.take defaultBufSize :=
    List.take_append_of_le_length (by omega)
  have line := @readLine_long (v ++ 13 :: 10 :: rest) (window ▸ noLF) (by simp; omega)
  have differs : ∀ n ≤ defaultBufSize,
      (v.length : Int) ≠ ((v ++ 13 :: 10 :: rest).take n).length := fun n le => by simp; omega
  simp only [encodeBulk, List.cons_append, List.append_assoc, List.nil_append]
  rw [readValues, readLine_header (by decide) vlen]
  simp only [List.head?_cons, ne_eq, not_true_eq_false, if_false, List.tail_cons,
    atoi_decimal vlen, line]
  by_cases top : (v ++ 13 :: 10 :: rest)[defaultBufSize - 1]? = some 13
  · simp only [top, if_true, if_pos (differs _ (Nat.sub_le _ 1))]
    exact ⟨_, rfl⟩
  · simp only [top, if_false, if_pos (differs _ le_rfl)]
    exact ⟨_, rfl⟩

/-- A request with a value longer than the buffer gets no reply: the connection is
closed. -/
theorem handle_value_too_long {pre post : List (List UInt8)} (fits : ∀ u ∈ pre, Fits u)
    {v : List UInt8} (noLF : 10 ∉ v.take defaultBufSize) (long : defaultBufSize < v.length)
    (vlen : v.length < 2 ^ 63) (count : (pre ++ v :: post).length < 2 ^ 63)
    (rest : List UInt8) (fuel : Nat) (last : List (List UInt8)) :
    handle (fuel + 1) last (encodeRequest (pre ++ v :: post) ++ rest) = ([], last) := by
  obtain ⟨err, failed⟩ := readValues_too_long noLF long vlen post.length
    (post.flatMap encodeBulk ++ rest)
  have values : (pre ++ v :: post).length = pre.length + (post.length + 1) := by simp
  rw [values] at count
  refine @handle_error _ _ _ err ?_
  simp only [encodeRequest, values, List.flatMap_append, List.flatMap_cons, List.cons_append,
    List.append_assoc]
  rw [readRequest, readLine_header (by decide) count]
  simp only [List.head?_cons, ne_eq, not_true_eq_false, if_false, List.tail_cons]
  rw [atoi_decimal count]
  dsimp only
  rw [Int.toNat_ofNat, ← List.append_assoc (encodeBulk v), readValues_encode fits]
  simp [failed, Except.map]

/-- A `SET` of a 5000-byte value. -/
theorem handle_value_too_long_set :
    (∀ u ∈ [asciiBytes "SET", asciiBytes "key"], Fits u) ∧
    10 ∉ (List.replicate 5000 (120 : UInt8)).take defaultBufSize ∧
    defaultBufSize < (List.replicate 5000 (120 : UInt8)).length ∧
    (List.replicate 5000 (120 : UInt8)).length < 2 ^ 63 ∧
    ([asciiBytes "SET", asciiBytes "key"] ++ List.replicate 5000 120 :: []).length < 2 ^ 63 ∧
    handle (0 + 1) [] (encodeRequest ([asciiBytes "SET", asciiBytes "key"] ++
        List.replicate 5000 120 :: []) ++ []) = ([], []) :=
  ⟨by decide, by rw [List.take_replicate, List.mem_replicate]; decide,
    by rw [List.length_replicate]; decide, by rw [List.length_replicate]; decide,
    by rw [List.length_append, List.length_cons]; decide,
    handle_value_too_long (by decide) (by rw [List.take_replicate, List.mem_replicate]; decide)
      (by rw [List.length_replicate]; decide) (by rw [List.length_replicate]; decide)
      (by rw [List.length_append, List.length_cons]; decide) [] 0 []⟩

end GomaServer.Redis
