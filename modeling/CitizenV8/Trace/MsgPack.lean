import Mathlib.Algebra.Group.Int
import Mathlib.Data.List.Infix

/-!
# The msgpack objects `WalkStack` decodes and packs again

`V8ScriptRuntime::WalkStack` reads the bytes its stack-trace routine hands back with
msgpack-c, which is not in the sources: `msgpack::unpack` parses one object (bytes after it
are allowed), throwing `insufficient_bytes` when the bytes end inside it and `parse_error`
at the byte `0xc1`; `as<std::vector<msgpack::object>>` throws `type_error` unless the object
is an array; `msgpack::pack` writes an object in the shortest form msgpack-c's `packer` has
for it. `unpack` and `MsgObject.pack` model them from the msgpack format.

`unpack` reads every object `pack` writes, whatever follows it (`unpack_pack`), and every
object `unpack` builds is one `pack` can write (`parse_isValid`); so packing again each
element of an array the parser built gives bytes that decode to that element.
`unpack` bounds the nesting by the number of bytes, which no input reaches
(`parse_fuel`).
-/

namespace CitizenV8

/-- A `msgpack::object`, as msgpack-c's parser builds it: `POSITIVE_INTEGER` holds a `u64`
and `NEGATIVE_INTEGER` an `i64` below zero; `FLOAT32` and `FLOAT64` hold the bits of the
float and of the double; `STR`, `BIN` and `EXT` their bytes (an `EXT` also its type
byte); a `MAP` its keys and values alternately, in the order of its `object_kv`s. -/
inductive MsgObject
  | nil
  | boolean (b : Bool)
  | positiveInteger (u64 : ℕ)
  | negativeInteger (i64 : ℤ)
  | float32 (bits : ℕ)
  | float64 (bits : ℕ)
  | str (bytes : List UInt8)
  | bin (bytes : List UInt8)
  | ext (type : UInt8) (data : List UInt8)
  | array (elements : List MsgObject)
  | map (entries : List MsgObject)
  deriving Repr

/-- The msgpack-c exceptions `WalkStack` can meet: `insufficient_bytes` and `parse_error`
thrown by `unpack`, `type_error` thrown by `as`. -/
inductive MsgpackError
  | insufficientBytes
  | parseError
  | typeError
  deriving DecidableEq, Repr

/-- The bits of the float with bits `v` after the conversion to `double` that the parser
makes (`via.f64 = v`) and the conversion back that `pack_float` makes: IEEE 754 keeps every
float but a signalling NaN, which comes back quiet (bit 22 set). -/
def MsgPack.quietFloat (v : ℕ) : ℕ :=
  if v / 2 ^ 23 % 2 ^ 8 = 2 ^ 8 - 1 ∧ v % 2 ^ 23 ≠ 0 ∧ v / 2 ^ 22 % 2 = 0 then v + 2 ^ 22
  else v

mutual

/-- An object the parser can build: integers in the range of their field, a float's bits
as the conversions leave them, lengths that fit in 32 bits, a map with a value for every
key. -/
def MsgObject.isValid : MsgObject → Bool
  | .positiveInteger u => decide (u < 2 ^ 64)
  | .negativeInteger i => decide (-2 ^ 63 ≤ i ∧ i < 0)
  | .float32 v => decide (v < 2 ^ 32 ∧ MsgPack.quietFloat v = v)
  | .float64 v => decide (v < 2 ^ 64)
  | .str s | .bin s | .ext _ s => decide (s.length < 2 ^ 32)
  | .array xs => decide (xs.length < 2 ^ 32) && MsgObject.allValid xs
  | .map kvs => decide (kvs.length % 2 = 0 ∧ kvs.length / 2 < 2 ^ 32) && MsgObject.allValid kvs
  | _ => true

def MsgObject.allValid : List MsgObject → Bool
  | [] => true
  | x :: xs => x.isValid && MsgObject.allValid xs

end

namespace MsgPack

/-! ## Bytes -/

/-- The number big-endian bytes hold (`_msgpack_load16`, `_msgpack_load32`,
`_msgpack_load64`). -/
def ofBE (bs : List UInt8) : ℕ := bs.foldl (fun acc b => 256 * acc + b.toNat) 0

/-- `v` as `w` big-endian bytes (`_msgpack_store16`, `_msgpack_store32`,
`_msgpack_store64`). -/
def toBE : ℕ → ℕ → List UInt8
  | 0, _ => []
  | w + 1, v => toBE w (v / 256) ++ [UInt8.ofNat v]

/-- The next `n` bytes and the bytes after them; `insufficient_bytes` when fewer are
left. -/
def takeBytes (n : ℕ) (bs : List UInt8) : Except MsgpackError (List UInt8 × List UInt8) :=
  if n ≤ bs.length then .ok (bs.take n, bs.drop n) else .error .insufficientBytes

/-- A big-endian number of `w` bytes and the bytes after it. -/
def loadBE (w : ℕ) (bs : List UInt8) : Except MsgpackError (ℕ × List UInt8) :=
  (takeBytes w bs).map fun (b, r) => (ofBE b, r)

theorem uint8_toNat_ofNat (n : ℕ) : (UInt8.ofNat n).toNat = n % 256 := rfl

@[simp] theorem length_toBE (w v : ℕ) : (toBE w v).length = w := by
  induction w generalizing v <;> simp [toBE, *]

theorem ofBE_append_singleton (bs : List UInt8) (b : UInt8) :
    ofBE (bs ++ [b]) = 256 * ofBE bs + b.toNat := by
  simp [ofBE, List.foldl_append]

theorem ofBE_toBE (w v : ℕ) : ofBE (toBE w v) = v % 256 ^ w := by
  induction w generalizing v with
  | zero => simp [ofBE, toBE, Nat.mod_one]
  | succ w ih =>
    rw [toBE, ofBE_append_singleton, ih, uint8_toNat_ofNat, Nat.pow_succ', Nat.mod_mul]
    omega

theorem ofBE_lt (bs : List UInt8) : ofBE bs < 256 ^ bs.length := by
  induction bs using List.reverseRecOn with
  | nil => simp [ofBE]
  | append_singleton bs b ih =>
    rw [ofBE_append_singleton, List.length_append, List.length_singleton, Nat.pow_succ]
    have := b.toNat_lt_size
    simp only [UInt8.size] at this
    omega

theorem takeBytes_append (bs rest : List UInt8) :
    takeBytes bs.length (bs ++ rest) = .ok (bs, rest) := by
  simp [takeBytes]

theorem loadBE_toBE {w v : ℕ} (hv : v < 256 ^ w) (rest : List UInt8) :
    loadBE w (toBE w v ++ rest) = .ok (v, rest) := by
  have h := takeBytes_append (toBE w v) rest
  rw [length_toBE] at h
  rw [loadBE, h]
  simp only [Except.map, ofBE_toBE, Nat.mod_eq_of_lt hv]

theorem takeBytes_eq_ok {n : ℕ} {bs b r : List UInt8} (h : takeBytes n bs = .ok (b, r)) :
    b.length = n ∧ bs = b ++ r := by
  unfold takeBytes at h
  split_ifs at h with hn
  cases h
  exact ⟨List.length_take_of_le hn, (List.take_append_drop n bs).symm⟩

theorem loadBE_eq_ok {w v : ℕ} {bs r : List UInt8} (h : loadBE w bs = .ok (v, r)) :
    v < 256 ^ w ∧ r.length + w = bs.length := by
  unfold loadBE at h
  rcases ht : takeBytes w bs with _ | ⟨b, r'⟩ <;> rw [ht] at h
  · cases h
  · cases h
    obtain ⟨hl, rfl⟩ := takeBytes_eq_ok ht
    exact ⟨hl ▸ ofBE_lt b, by simp [hl, Nat.add_comm]⟩

/-! ## What the first byte announces -/

/-- The 8-, 16-, 32- and 64-bit forms of a number. -/
inductive Width
  | w8 | w16 | w32 | w64
  deriving DecidableEq, Repr

def Width.bytes : Width → ℕ
  | .w8 => 1
  | .w16 => 2
  | .w32 => 4
  | .w64 => 8

/-- Where the length of a string, bin or ext, or the count of an array or map, stands: in
the first byte, or in the 1, 2 or 4 bytes after it. -/
inductive Length
  | fixed (n : Fin 32)
  | u8 | u16 | u32
  deriving DecidableEq, Repr

def Length.read : Length → List UInt8 → Except MsgpackError (ℕ × List UInt8)
  | .fixed n, bs => .ok (n, bs)
  | .u8, bs => loadBE 1 bs
  | .u16, bs => loadBE 2 bs
  | .u32, bs => loadBE 4 bs

/-- What the first byte of an object announces, as the `switch` of msgpack-c's parser
reads it: the whole object (fixints, `nil`, `false`, `true`), the unused byte `0xc1`, the
form of a number, or the kind of an object with a length. -/
inductive Header
  | value (o : MsgObject) (valid : o.isValid)
  | neverUsed
  | uint (w : Width)
  | int (w : Width)
  | float32
  | float64
  | str (l : Length)
  | bin (l : Length)
  | ext (l : Length)
  | array (l : Length)
  | map (l : Length)

/-- The header of a first byte `0xc0` to `0xdf`, each of which stands for one form. -/
def Header.ofCode : ℕ → Header
  | 0xc0 => .value .nil rfl
  | 0xc2 => .value (.boolean false) rfl
  | 0xc3 => .value (.boolean true) rfl
  | 0xc4 => .bin .u8
  | 0xc5 => .bin .u16
  | 0xc6 => .bin .u32
  | 0xc7 => .ext .u8
  | 0xc8 => .ext .u16
  | 0xc9 => .ext .u32
  | 0xca => .float32
  | 0xcb => .float64
  | 0xcc => .uint .w8
  | 0xcd => .uint .w16
  | 0xce => .uint .w32
  | 0xcf => .uint .w64
  | 0xd0 => .int .w8
  | 0xd1 => .int .w16
  | 0xd2 => .int .w32
  | 0xd3 => .int .w64
  | 0xd4 => .ext (.fixed 1)
  | 0xd5 => .ext (.fixed 2)
  | 0xd6 => .ext (.fixed 4)
  | 0xd7 => .ext (.fixed 8)
  | 0xd8 => .ext (.fixed 16)
  | 0xd9 => .str .u8
  | 0xda => .str .u16
  | 0xdb => .str .u32
  | 0xdc => .array .u16
  | 0xdd => .array .u32
  | 0xde => .map .u16
  | 0xdf => .map .u32
  | _ => .neverUsed

/-- The header of the first byte `b`: a positive fixint, a fixmap, a fixarray, a fixstr, a
negative fixint, or one of the forms `0xc0` to `0xdf`. -/
def Header.ofByte (b : UInt8) : Header :=
  if h : b.toNat < 0x80 then
    .value (.positiveInteger b.toNat) (by simp only [MsgObject.isValid, decide_eq_true_eq]; omega)
  else if h : b.toNat < 0x90 then .map (.fixed ⟨b.toNat - 0x80, by omega⟩)
  else if h : b.toNat < 0xa0 then .array (.fixed ⟨b.toNat - 0x90, by omega⟩)
  else if h : b.toNat < 0xc0 then .str (.fixed ⟨b.toNat - 0xa0, by omega⟩)
  else if h : 0xe0 ≤ b.toNat then
    .value (.negativeInteger (b.toNat - 0x100)) (by
      have : b.toNat < 256 := b.toNat_lt_size
      simp only [MsgObject.isValid, decide_eq_true_eq]
      omega)
  else Header.ofCode b.toNat

theorem Header.ofByte_fixint {n : ℕ} (h : n < 0x80) :
    Header.ofByte (UInt8.ofNat n) = .value (.positiveInteger n)
      (by simp only [MsgObject.isValid, decide_eq_true_eq]; omega) := by
  have hb : (UInt8.ofNat n).toNat = n := UInt8.toNat_ofNat_of_lt (show n < 256 by omega)
  simp only [Header.ofByte, hb]
  rw [dif_pos h]

theorem Header.ofByte_negativeFixint {n : ℕ} (h : 0xe0 ≤ n) (h' : n < 0x100) :
    Header.ofByte (UInt8.ofNat n) = .value (.negativeInteger (n - 0x100))
      (by simp only [MsgObject.isValid, decide_eq_true_eq]; omega) := by
  have hb : (UInt8.ofNat n).toNat = n := UInt8.toNat_ofNat_of_lt h'
  simp only [Header.ofByte, hb]
  rw [dif_neg (by omega), dif_neg (by omega), dif_neg (by omega), dif_neg (by omega), dif_pos h]

theorem Header.ofByte_fixmap {n : ℕ} (h : n < 16) :
    Header.ofByte (UInt8.ofNat (0x80 + n)) = .map (.fixed ⟨n, by omega⟩) := by
  have hb : (UInt8.ofNat (0x80 + n)).toNat = 0x80 + n :=
    UInt8.toNat_ofNat_of_lt (show 0x80 + n < 256 by omega)
  simp only [Header.ofByte, hb]
  rw [dif_neg (by omega), dif_pos (by omega)]
  simp only [Nat.add_sub_cancel_left]

theorem Header.ofByte_fixarray {n : ℕ} (h : n < 16) :
    Header.ofByte (UInt8.ofNat (0x90 + n)) = .array (.fixed ⟨n, by omega⟩) := by
  have hb : (UInt8.ofNat (0x90 + n)).toNat = 0x90 + n :=
    UInt8.toNat_ofNat_of_lt (show 0x90 + n < 256 by omega)
  simp only [Header.ofByte, hb]
  rw [dif_neg (by omega), dif_neg (by omega), dif_pos (by omega)]
  simp only [Nat.add_sub_cancel_left]

theorem Header.ofByte_fixstr {n : ℕ} (h : n < 32) :
    Header.ofByte (UInt8.ofNat (0xa0 + n)) = .str (.fixed ⟨n, h⟩) := by
  have hb : (UInt8.ofNat (0xa0 + n)).toNat = 0xa0 + n :=
    UInt8.toNat_ofNat_of_lt (show 0xa0 + n < 256 by omega)
  simp only [Header.ofByte, hb]
  rw [dif_neg (by omega), dif_neg (by omega), dif_neg (by omega), dif_pos (by omega)]
  simp only [Nat.add_sub_cancel_left]

/-! ## The parser -/

/-- An `int 8` to `int 64` of width `w` whose bytes hold `v`: `NEGATIVE_INTEGER` when it is
below zero, `POSITIVE_INTEGER` otherwise. -/
def signedObject (w : Width) (v : ℕ) : MsgObject :=
  if v < 2 ^ (8 * w.bytes - 1) then .positiveInteger v
  else .negativeInteger ((v : ℤ) - 2 ^ (8 * w.bytes))

/-- `n` objects one after another, each read by `p`. -/
def parseMany (p : List UInt8 → Except MsgpackError (MsgObject × List UInt8)) :
    ℕ → List UInt8 → Except MsgpackError (List MsgObject × List UInt8)
  | 0, bs => .ok ([], bs)
  | n + 1, bs => do
      let (x, r) ← p bs
      let (xs, r) ← parseMany p n r
      pure (x :: xs, r)

/-- One object and the bytes after it, with at most `fuel` levels of nesting. -/
def parse : ℕ → List UInt8 → Except MsgpackError (MsgObject × List UInt8)
  | 0, _ => .error .insufficientBytes
  | _ + 1, [] => .error .insufficientBytes
  | fuel + 1, b :: bs =>
      match Header.ofByte b with
      | .value o _ => .ok (o, bs)
      | .neverUsed => .error .parseError
      | .uint w => do
          let (v, r) ← loadBE w.bytes bs
          pure (.positiveInteger v, r)
      | .int w => do
          let (v, r) ← loadBE w.bytes bs
          pure (signedObject w v, r)
      | .float32 => do
          let (v, r) ← loadBE 4 bs
          pure (.float32 (quietFloat v), r)
      | .float64 => do
          let (v, r) ← loadBE 8 bs
          pure (.float64 v, r)
      | .str l => do
          let (n, r) ← l.read bs
          let (s, r) ← takeBytes n r
          pure (.str s, r)
      | .bin l => do
          let (n, r) ← l.read bs
          let (s, r) ← takeBytes n r
          pure (.bin s, r)
      | .ext l => do
          let (n, r) ← l.read bs
          let (t, r) ← loadBE 1 r
          let (d, r) ← takeBytes n r
          pure (.ext (UInt8.ofNat t) d, r)
      | .array l => do
          let (n, r) ← l.read bs
          let (xs, r) ← parseMany (parse fuel) n r
          pure (.array xs, r)
      | .map l => do
          let (n, r) ← l.read bs
          let (xs, r) ← parseMany (parse fuel) (2 * n) r
          pure (.map xs, r)

end MsgPack

open MsgPack

/-- `msgpack::unpack(data, len)`: the first object of `data` and the bytes after it. Each
level of nesting takes a byte, so `data.length + 1` levels are never reached
(`parse_fuel`). -/
def unpack (data : List UInt8) : Except MsgpackError (MsgObject × List UInt8) :=
  parse (data.length + 1) data

/-- `as<std::vector<msgpack::object>>()`: the elements of an array. -/
def MsgObject.asVector : MsgObject → Except MsgpackError (List MsgObject)
  | .array xs => .ok xs
  | _ => .error .typeError

/-! ## The packer -/

namespace MsgPack

/-- `packer::pack_uint64`. -/
def packUint64 (u : ℕ) : List UInt8 :=
  if u < 2 ^ 7 then [UInt8.ofNat u]
  else if u < 2 ^ 8 then 0xcc :: toBE 1 u
  else if u < 2 ^ 16 then 0xcd :: toBE 2 u
  else if u < 2 ^ 32 then 0xce :: toBE 4 u
  else 0xcf :: toBE 8 u

/-- `packer::pack_int64`. -/
def packInt64 (d : ℤ) : List UInt8 :=
  if d < -2 ^ 5 then
    if d < -2 ^ 15 then
      if d < -2 ^ 31 then 0xd3 :: toBE 8 (d % 2 ^ 64).toNat
      else 0xd2 :: toBE 4 (d % 2 ^ 32).toNat
    else if d < -2 ^ 7 then 0xd1 :: toBE 2 (d % 2 ^ 16).toNat
    else 0xd0 :: toBE 1 (d % 2 ^ 8).toNat
  else if d < 2 ^ 7 then [UInt8.ofNat (d % 2 ^ 8).toNat]
  else packUint64 d.toNat

/-- `packer::pack_str`. -/
def packStr (l : ℕ) : List UInt8 :=
  if l < 32 then [UInt8.ofNat (0xa0 + l)]
  else if l < 2 ^ 8 then 0xd9 :: toBE 1 l
  else if l < 2 ^ 16 then 0xda :: toBE 2 l
  else 0xdb :: toBE 4 l

/-- `packer::pack_bin`. -/
def packBin (l : ℕ) : List UInt8 :=
  if l < 2 ^ 8 then 0xc4 :: toBE 1 l
  else if l < 2 ^ 16 then 0xc5 :: toBE 2 l
  else 0xc6 :: toBE 4 l

/-- `packer::pack_ext`. -/
def packExt (l : ℕ) (type : UInt8) : List UInt8 :=
  match l with
  | 1 => [0xd4, type]
  | 2 => [0xd5, type]
  | 4 => [0xd6, type]
  | 8 => [0xd7, type]
  | 16 => [0xd8, type]
  | _ =>
      if l < 2 ^ 8 then 0xc7 :: toBE 1 l ++ [type]
      else if l < 2 ^ 16 then 0xc8 :: toBE 2 l ++ [type]
      else 0xc9 :: toBE 4 l ++ [type]

/-- `packer::pack_array`. -/
def packArray (n : ℕ) : List UInt8 :=
  if n < 16 then [UInt8.ofNat (0x90 + n)]
  else if n < 2 ^ 16 then 0xdc :: toBE 2 n
  else 0xdd :: toBE 4 n

/-- `packer::pack_map`. -/
def packMap (n : ℕ) : List UInt8 :=
  if n < 16 then [UInt8.ofNat (0x80 + n)]
  else if n < 2 ^ 16 then 0xde :: toBE 2 n
  else 0xdf :: toBE 4 n

end MsgPack

mutual

/-- `msgpack::pack` of an object: `packer<Stream>::pack` of `msgpack::object`. -/
def MsgObject.pack : MsgObject → List UInt8
  | .nil => [0xc0]
  | .boolean b => [if b then 0xc3 else 0xc2]
  | .positiveInteger u => packUint64 u
  | .negativeInteger i => packInt64 i
  | .float32 v => 0xca :: toBE 4 v
  | .float64 v => 0xcb :: toBE 8 v
  | .str s => packStr s.length ++ s
  | .bin s => packBin s.length ++ s
  | .ext t d => packExt d.length t ++ d
  | .array xs => packArray xs.length ++ MsgObject.packList xs
  | .map kvs => packMap (kvs.length / 2) ++ MsgObject.packList kvs

/-- The objects of a list packed one after another. -/
def MsgObject.packList : List MsgObject → List UInt8
  | [] => []
  | x :: xs => x.pack ++ MsgObject.packList xs

end

/-! ## `unpack` reads what `pack` writes -/

namespace MsgPack

theorem bind_eq_ok {α β : Type} {x : Except MsgpackError α} {f : α → Except MsgpackError β}
    {b : β} : x >>= f = .ok b ↔ ∃ a, x = .ok a ∧ f a = .ok b := by
  cases x <;> simp [bind, Except.bind]

/-- `hdr` is a first byte announcing an object of kind `kind` followed by the bytes that give
its length or count back as `l`. -/
def Announces (kind : Length → Header) (l : ℕ) (hdr : List UInt8) : Prop :=
  ∃ b tail len, hdr = b :: tail ∧ Header.ofByte b = kind len ∧
    ∀ more, len.read (tail ++ more) = .ok (l, more)

theorem parse_value {b : UInt8} {o : MsgObject} {hv : o.isValid}
    (hb : Header.ofByte b = .value o hv) (f : ℕ) (rest : List UInt8) :
    parse (f + 1) (b :: rest) = .ok (o, rest) := by
  simp only [parse, hb]

theorem parse_uint (w : Width) (b : UInt8) (hb : Header.ofByte b = .uint w) {v : ℕ}
    (hv : v < 256 ^ w.bytes) (f : ℕ) (rest : List UInt8) :
    parse (f + 1) (b :: toBE w.bytes v ++ rest) = .ok (.positiveInteger v, rest) := by
  rw [List.cons_append]
  simp only [parse, hb, loadBE_toBE hv]
  rfl

theorem parse_int (w : Width) (b : UInt8) (hb : Header.ofByte b = .int w) {v : ℕ}
    (hv : v < 256 ^ w.bytes) (f : ℕ) (rest : List UInt8) :
    parse (f + 1) (b :: toBE w.bytes v ++ rest) = .ok (signedObject w v, rest) := by
  rw [List.cons_append]
  simp only [parse, hb, loadBE_toBE hv]
  rfl

theorem parse_str {l : ℕ} {hdr s : List UInt8} (h : Announces .str l hdr) (hl : s.length = l)
    (f : ℕ) (rest : List UInt8) : parse (f + 1) (hdr ++ s ++ rest) = .ok (.str s, rest) := by
  obtain ⟨b, tail, len, rfl, hb, hr⟩ := h
  subst hl
  rw [List.cons_append, List.cons_append, List.append_assoc]
  simp only [parse, hb, hr, bind, Except.bind, takeBytes_append]
  rfl

theorem parse_bin {l : ℕ} {hdr s : List UInt8} (h : Announces .bin l hdr) (hl : s.length = l)
    (f : ℕ) (rest : List UInt8) : parse (f + 1) (hdr ++ s ++ rest) = .ok (.bin s, rest) := by
  obtain ⟨b, tail, len, rfl, hb, hr⟩ := h
  subst hl
  rw [List.cons_append, List.cons_append, List.append_assoc]
  simp only [parse, hb, hr, bind, Except.bind, takeBytes_append]
  rfl

/-- A negative number in the range of `w` comes back from its two's complement. -/
theorem signedObject_twos {i : ℤ} (w : Width) (h : -2 ^ (8 * w.bytes - 1) ≤ i) (h' : i < 0) :
    signedObject w (i % 2 ^ (8 * w.bytes)).toNat = .negativeInteger i := by
  cases w <;> simp only [signedObject, Width.bytes] at h ⊢ <;> rw [if_neg (by omega)] <;>
    congr 1 <;> omega

theorem parse_packUint64 {u : ℕ} (hu : u < 2 ^ 64) (f : ℕ) (rest : List UInt8) :
    parse (f + 1) (packUint64 u ++ rest) = .ok (.positiveInteger u, rest) := by
  unfold packUint64
  split_ifs with h₁ h₂ h₃ h₄
  · simp [parse, Header.ofByte_fixint h₁]
  · exact parse_uint .w8 0xcc rfl (by simp only [Width.bytes]; omega) f rest
  · exact parse_uint .w16 0xcd rfl (by simp only [Width.bytes]; omega) f rest
  · exact parse_uint .w32 0xce rfl (by simp only [Width.bytes]; omega) f rest
  · exact parse_uint .w64 0xcf rfl (by simp only [Width.bytes]; omega) f rest

theorem parse_packInt64 {i : ℤ} (hi : -2 ^ 63 ≤ i ∧ i < 0) (f : ℕ) (rest : List UInt8) :
    parse (f + 1) (packInt64 i ++ rest) = .ok (.negativeInteger i, rest) := by
  unfold packInt64
  split_ifs with h₁ h₂ h₃ h₄ h₅
  · rw [← signedObject_twos .w64 (by simp only [Width.bytes]; omega) hi.2]
    exact parse_int .w64 0xd3 rfl (by simp only [Width.bytes]; omega) f rest
  · rw [← signedObject_twos .w32 (by simp only [Width.bytes]; omega) hi.2]
    exact parse_int .w32 0xd2 rfl (by simp only [Width.bytes]; omega) f rest
  · rw [← signedObject_twos .w16 (by simp only [Width.bytes]; omega) hi.2]
    exact parse_int .w16 0xd1 rfl (by simp only [Width.bytes]; omega) f rest
  · rw [← signedObject_twos .w8 (by simp only [Width.bytes]; omega) hi.2]
    exact parse_int .w8 0xd0 rfl (by simp only [Width.bytes]; omega) f rest
  · have hi' : ((i % 2 ^ 8).toNat : ℤ) - 0x100 = i := by omega
    have h := parse_value (@Header.ofByte_negativeFixint ((i % 2 ^ 8).toNat) (by omega) (by omega))
      f rest
    rwa [hi'] at h
  · omega

theorem packStr_announces {l : ℕ} (hl : l < 2 ^ 32) : Announces .str l (packStr l) := by
  unfold packStr
  split_ifs with h₁ h₂ h₃
  · exact ⟨_, [], _, rfl, Header.ofByte_fixstr h₁, fun _ => rfl⟩
  · exact ⟨_, _, .u8, rfl, rfl, fun more => loadBE_toBE (by omega) more⟩
  · exact ⟨_, _, .u16, rfl, rfl, fun more => loadBE_toBE (by omega) more⟩
  · exact ⟨_, _, .u32, rfl, rfl, fun more => loadBE_toBE (by omega) more⟩

theorem packBin_announces {l : ℕ} (hl : l < 2 ^ 32) : Announces .bin l (packBin l) := by
  unfold packBin
  split_ifs with h₁ h₂
  · exact ⟨_, _, .u8, rfl, rfl, fun more => loadBE_toBE (by omega) more⟩
  · exact ⟨_, _, .u16, rfl, rfl, fun more => loadBE_toBE (by omega) more⟩
  · exact ⟨_, _, .u32, rfl, rfl, fun more => loadBE_toBE (by omega) more⟩

theorem packArray_announces {n : ℕ} (hn : n < 2 ^ 32) : Announces .array n (packArray n) := by
  unfold packArray
  split_ifs with h₁ h₂
  · exact ⟨_, [], _, rfl, Header.ofByte_fixarray h₁, fun _ => rfl⟩
  · exact ⟨_, _, .u16, rfl, rfl, fun more => loadBE_toBE (by omega) more⟩
  · exact ⟨_, _, .u32, rfl, rfl, fun more => loadBE_toBE (by omega) more⟩

theorem packMap_announces {n : ℕ} (hn : n < 2 ^ 32) : Announces .map n (packMap n) := by
  unfold packMap
  split_ifs with h₁ h₂
  · exact ⟨_, [], _, rfl, Header.ofByte_fixmap h₁, fun _ => rfl⟩
  · exact ⟨_, _, .u16, rfl, rfl, fun more => loadBE_toBE (by omega) more⟩
  · exact ⟨_, _, .u32, rfl, rfl, fun more => loadBE_toBE (by omega) more⟩

theorem packExt_announces {l : ℕ} (hl : l < 2 ^ 32) (t : UInt8) :
    ∃ hdr, packExt l t = hdr ++ [t] ∧ Announces .ext l hdr := by
  unfold packExt
  split
  · exact ⟨[0xd4], rfl, _, [], .fixed 1, rfl, rfl, fun _ => rfl⟩
  · exact ⟨[0xd5], rfl, _, [], .fixed 2, rfl, rfl, fun _ => rfl⟩
  · exact ⟨[0xd6], rfl, _, [], .fixed 4, rfl, rfl, fun _ => rfl⟩
  · exact ⟨[0xd7], rfl, _, [], .fixed 8, rfl, rfl, fun _ => rfl⟩
  · exact ⟨[0xd8], rfl, _, [], .fixed 16, rfl, rfl, fun _ => rfl⟩
  · split_ifs with h₁ h₂
    · exact ⟨_, rfl, _, _, .u8, rfl, rfl, fun more => loadBE_toBE (by omega) more⟩
    · exact ⟨_, rfl, _, _, .u16, rfl, rfl, fun more => loadBE_toBE (by omega) more⟩
    · exact ⟨_, rfl, _, _, .u32, rfl, rfl, fun more => loadBE_toBE (by omega) more⟩

theorem loadBE_one (t : UInt8) (rest : List UInt8) : loadBE 1 (t :: rest) = .ok (t.toNat, rest) := by
  simp [loadBE, takeBytes, ofBE, Except.map]

theorem parse_ext {l : ℕ} {hdr d : List UInt8} (h : Announces .ext l hdr) (hl : d.length = l)
    (t : UInt8) (f : ℕ) (rest : List UInt8) :
    parse (f + 1) (hdr ++ [t] ++ d ++ rest) = .ok (.ext t d, rest) := by
  obtain ⟨b, tail, len, rfl, hb, hr⟩ := h
  subst hl
  rw [List.cons_append, List.cons_append, List.cons_append, List.append_assoc,
    List.append_assoc]
  simp only [parse, hb, hr, bind, Except.bind, List.singleton_append, loadBE_one,
    takeBytes_append, UInt8.toNat.inj (UInt8.toNat_ofNat_of_lt t.toNat_lt_size)]
  rfl

theorem parse_float32 {v : ℕ} (hv : v < 2 ^ 32) (f : ℕ) (rest : List UInt8) :
    parse (f + 1) (0xca :: toBE 4 v ++ rest) = .ok (.float32 (quietFloat v), rest) := by
  rw [List.cons_append]
  simp only [parse, show Header.ofByte 0xca = .float32 from rfl, loadBE_toBE (by omega : v < 256 ^ 4)]
  rfl

theorem parse_float64 {v : ℕ} (hv : v < 2 ^ 64) (f : ℕ) (rest : List UInt8) :
    parse (f + 1) (0xcb :: toBE 8 v ++ rest) = .ok (.float64 v, rest) := by
  rw [List.cons_append]
  simp only [parse, show Header.ofByte 0xcb = .float64 from rfl, loadBE_toBE (by omega : v < 256 ^ 8)]
  rfl

theorem parse_array {n : ℕ} {hdr : List UInt8} (h : Announces .array n hdr)
    {xs : List MsgObject} {f : ℕ} {rest : List UInt8}
    (hxs : parseMany (parse f) n (MsgObject.packList xs ++ rest) = .ok (xs, rest)) :
    parse (f + 1) (hdr ++ MsgObject.packList xs ++ rest) = .ok (.array xs, rest) := by
  obtain ⟨b, tail, len, rfl, hb, hr⟩ := h
  rw [List.cons_append, List.cons_append, List.append_assoc]
  simp only [parse, hb, hr, hxs, bind, Except.bind]
  rfl

theorem parse_map {n : ℕ} {hdr : List UInt8} (h : Announces .map n hdr)
    {kvs : List MsgObject} {f : ℕ} {rest : List UInt8}
    (hkvs : parseMany (parse f) (2 * n) (MsgObject.packList kvs ++ rest) = .ok (kvs, rest)) :
    parse (f + 1) (hdr ++ MsgObject.packList kvs ++ rest) = .ok (.map kvs, rest) := by
  obtain ⟨b, tail, len, rfl, hb, hr⟩ := h
  rw [List.cons_append, List.cons_append, List.append_assoc]
  simp only [parse, hb, hr, hkvs, bind, Except.bind]
  rfl

theorem Announces.length_pos {kind : Length → Header} {l : ℕ} {hdr : List UInt8}
    (h : Announces kind l hdr) : 0 < hdr.length := by
  obtain ⟨b, tail, _, rfl, -⟩ := h
  simp

theorem parseMany_packList {p : List UInt8 → Except MsgpackError (MsgObject × List UInt8)}
    {f : ℕ} (hp : ∀ x rest, x.isValid → x.pack.length < f → p (x.pack ++ rest) = .ok (x, rest)) :
    ∀ (xs : List MsgObject) (rest : List UInt8), MsgObject.allValid xs →
      (MsgObject.packList xs).length < f →
      parseMany p xs.length (MsgObject.packList xs ++ rest) = .ok (xs, rest)
  | [], _, _, _ => rfl
  | x :: xs, rest, hv, hl => by
    simp only [MsgObject.allValid, Bool.and_eq_true] at hv
    simp only [MsgObject.packList, List.length_append] at hl
    simp only [MsgObject.packList, List.length_cons, parseMany, List.append_assoc,
      hp x _ hv.1 (by omega), parseMany_packList hp xs rest hv.2 (by omega), bind, Except.bind]
    rfl

/-- The parser reads back every object the packer writes, and only its bytes, given more
levels of nesting than the packed object has bytes. -/
theorem parse_pack (fuel : ℕ) : ∀ (o : MsgObject) (rest : List UInt8), o.isValid →
    o.pack.length < fuel → parse fuel (o.pack ++ rest) = .ok (o, rest) := by
  induction fuel with
  | zero => intro o _ _ hl; exact absurd hl (Nat.not_lt_zero _)
  | succ f ih =>
    intro o rest hv hl
    cases o with
    | nil => rfl
    | boolean b => cases b <;> rfl
    | positiveInteger u =>
      exact parse_packUint64 (by simpa [MsgObject.isValid] using hv) f rest
    | negativeInteger i =>
      exact parse_packInt64 (by simpa [MsgObject.isValid] using hv) f rest
    | float32 v =>
      simp only [MsgObject.isValid, decide_eq_true_eq] at hv
      rw [MsgObject.pack, parse_float32 hv.1, hv.2]
    | float64 v => exact parse_float64 (by simpa [MsgObject.isValid] using hv) f rest
    | str s =>
      exact parse_str (packStr_announces (by simpa [MsgObject.isValid] using hv)) rfl f rest
    | bin s =>
      exact parse_bin (packBin_announces (by simpa [MsgObject.isValid] using hv)) rfl f rest
    | ext t d =>
      obtain ⟨hdr, he, ha⟩ := packExt_announces (by simpa [MsgObject.isValid] using hv) t
      rw [MsgObject.pack, he]
      exact parse_ext ha rfl t f rest
    | array xs =>
      simp only [MsgObject.isValid, Bool.and_eq_true, decide_eq_true_eq] at hv
      have ha := packArray_announces hv.1
      simp only [MsgObject.pack, List.length_append] at hl ⊢
      have := ha.length_pos
      exact parse_array ha (@parseMany_packList (parse f) f ih xs rest hv.2 (by omega))
    | map kvs =>
      simp only [MsgObject.isValid, Bool.and_eq_true, decide_eq_true_eq] at hv
      have ha := packMap_announces hv.1.2
      simp only [MsgObject.pack, List.length_append] at hl ⊢
      have := ha.length_pos
      have hk : 2 * (kvs.length / 2) = kvs.length := by omega
      exact parse_map ha (by rw [hk]; exact @parseMany_packList (parse f) f ih kvs rest hv.2 (by omega))

end MsgPack

/-- `unpack` reads back, with whatever follows it, every object `msgpack::pack` writes. -/
theorem unpack_pack {o : MsgObject} (ho : o.isValid) (rest : List UInt8) :
    unpack (o.pack ++ rest) = .ok (o, rest) :=
  parse_pack _ o rest ho (by simp only [List.length_append]; omega)

theorem unpack_pack_frame :
    (MsgObject.array [.positiveInteger 5, .str [0x61]]).isValid ∧
      unpack ((MsgObject.array [.positiveInteger 5, .str [0x61]]).pack ++ [0xc0]) =
        .ok (.array [.positiveInteger 5, .str [0x61]], [0xc0]) :=
  ⟨rfl, @unpack_pack (.array [.positiveInteger 5, .str [0x61]]) rfl [0xc0]⟩

/-! ## What `unpack` builds -/

namespace MsgPack

theorem quietFloat_lt {v : ℕ} (hv : v < 2 ^ 32) : quietFloat v < 2 ^ 32 := by
  unfold quietFloat
  split_ifs <;> omega

theorem quietFloat_quietFloat (v : ℕ) : quietFloat (quietFloat v) = quietFloat v := by
  unfold quietFloat
  split_ifs <;> omega

theorem Width.pow_bytes_le (w : Width) : 256 ^ w.bytes ≤ 2 ^ 64 := by
  cases w <;> decide

theorem signedObject_isValid {w : Width} {v : ℕ} (hv : v < 256 ^ w.bytes) :
    (signedObject w v).isValid := by
  cases w <;> simp only [signedObject, Width.bytes] at hv ⊢ <;> split_ifs <;>
    simp only [MsgObject.isValid, decide_eq_true_eq] <;> omega

theorem Length.read_eq_ok {l : Length} {bs r : List UInt8} {n : ℕ}
    (h : l.read bs = .ok (n, r)) : n < 2 ^ 32 ∧ r.length ≤ bs.length := by
  cases l with
  | fixed k => cases h; exact ⟨by omega, le_rfl⟩
  | u8 => have := loadBE_eq_ok h; omega
  | u16 => have := loadBE_eq_ok h; omega
  | u32 => have := loadBE_eq_ok h; omega

theorem parseMany_isValid {p : List UInt8 → Except MsgpackError (MsgObject × List UInt8)}
    (hp : ∀ bs o r, p bs = .ok (o, r) → o.isValid ∧ r.length < bs.length) :
    ∀ n bs xs r, parseMany p n bs = .ok (xs, r) →
      MsgObject.allValid xs ∧ xs.length = n ∧ r.length ≤ bs.length
  | 0, _, _, _, h => by cases h; exact ⟨rfl, rfl, le_rfl⟩
  | n + 1, bs, xs, r, h => by
    simp only [parseMany, bind_eq_ok, Prod.exists] at h
    obtain ⟨x, r₁, h₁, ys, r₂, h₂, h₃⟩ := h
    cases h₃
    obtain ⟨hx, hr₁⟩ := hp _ _ _ h₁
    obtain ⟨hys, hlen, hr₂⟩ := parseMany_isValid hp n r₁ ys _ h₂
    exact ⟨by simp [MsgObject.allValid, hx, hys], by simp [hlen], by omega⟩

/-- Every object the parser builds is one the packer writes back, and it takes at least one
byte. -/
theorem parse_isValid (fuel : ℕ) : ∀ bs o r, parse fuel bs = .ok (o, r) →
    o.isValid ∧ r.length < bs.length := by
  induction fuel with
  | zero => intro bs o r h; cases h
  | succ f ih =>
    intro bs o r h
    cases bs with
    | nil => cases h
    | cons b bs =>
      simp only [parse] at h
      rcases hb : Header.ofByte b with ⟨o', hv⟩ | _ | w | w | _ | _ | l | l | l | l | l <;>
        simp only [hb, bind_eq_ok, Prod.exists] at h
      · cases h; exact ⟨‹_›, by simp⟩
      · cases h
      · obtain ⟨v, r₁, h₁, ⟨⟩⟩ := h
        have := loadBE_eq_ok h₁
        have := w.pow_bytes_le
        simp only [MsgObject.isValid, decide_eq_true_eq, List.length_cons]
        omega
      · obtain ⟨v, r₁, h₁, ⟨⟩⟩ := h
        have := loadBE_eq_ok h₁
        exact ⟨signedObject_isValid this.1, by simp; omega⟩
      · obtain ⟨v, r₁, h₁, ⟨⟩⟩ := h
        have := loadBE_eq_ok h₁
        simp only [MsgObject.isValid, decide_eq_true_eq, List.length_cons,
          quietFloat_quietFloat]
        exact ⟨⟨quietFloat_lt (by omega), trivial⟩, by omega⟩
      · obtain ⟨v, r₁, h₁, ⟨⟩⟩ := h
        have := loadBE_eq_ok h₁
        simp only [MsgObject.isValid, decide_eq_true_eq, List.length_cons]
        omega
      · obtain ⟨n, r₁, h₁, s, r₂, h₂, ⟨⟩⟩ := h
        have h₃ := Length.read_eq_ok h₁
        obtain ⟨hs, rfl⟩ := takeBytes_eq_ok h₂
        simp only [MsgObject.isValid, decide_eq_true_eq, List.length_cons,
          List.length_append] at h₃ ⊢
        omega
      · obtain ⟨n, r₁, h₁, s, r₂, h₂, ⟨⟩⟩ := h
        have h₃ := Length.read_eq_ok h₁
        obtain ⟨hs, rfl⟩ := takeBytes_eq_ok h₂
        simp only [MsgObject.isValid, decide_eq_true_eq, List.length_cons,
          List.length_append] at h₃ ⊢
        omega
      · obtain ⟨n, r₁, h₁, t, r₂, h₂, d, r₃, h₃, ⟨⟩⟩ := h
        have h₅ := Length.read_eq_ok h₁
        have h₆ := loadBE_eq_ok h₂
        obtain ⟨hd, rfl⟩ := takeBytes_eq_ok h₃
        simp only [MsgObject.isValid, decide_eq_true_eq, List.length_cons,
          List.length_append] at h₅ h₆ ⊢
        omega
      · obtain ⟨n, r₁, h₁, xs, r₂, h₂, ⟨⟩⟩ := h
        have := Length.read_eq_ok h₁
        obtain ⟨hxs, hlen, hr⟩ := parseMany_isValid ih n r₁ xs _ h₂
        simp only [MsgObject.isValid, hxs, Bool.and_true, decide_eq_true_eq, List.length_cons]
        omega
      · obtain ⟨n, r₁, h₁, xs, r₂, h₂, ⟨⟩⟩ := h
        have := Length.read_eq_ok h₁
        obtain ⟨hxs, hlen, hr⟩ := parseMany_isValid ih (2 * n) r₁ xs _ h₂
        simp only [MsgObject.isValid, hxs, Bool.and_true, decide_eq_true_eq, List.length_cons]
        omega

end MsgPack

/-- Every object `msgpack::unpack` builds is one `msgpack::pack` writes back. -/
theorem unpack_isValid {data rest : List UInt8} {o : MsgObject} (h : unpack data = .ok (o, rest)) :
    o.isValid :=
  (parse_isValid _ data o rest h).1

theorem unpack_isValid_map :
    unpack [0x81, 0xa1, 0x61, 0xc3] = .ok (.map [.str [0x61], .boolean true], []) ∧
      (MsgObject.map [.str [0x61], .boolean true]).isValid :=
  ⟨rfl, unpack_isValid (rfl : unpack [0x81, 0xa1, 0x61, 0xc3] = _)⟩

example : unpack [0x92, 0xcc, 0x05, 0xa1, 0x61, 0xc0] =
    .ok (.array [.positiveInteger 5, .str [0x61]], [0xc0]) := rfl

end CitizenV8
