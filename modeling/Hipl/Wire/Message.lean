import Mathlib

/-!
# HIP control messages as parameter lists

A HIP control message is a fixed header followed by TLV parameters in wire order. The core
never walks the bytes of a message itself: it asks `hip_get_param` for the first parameter of a
type and `hip_get_next_param` for the parameter after a given one, whatever its type, and then
reads a parameter's fields through a pointer to a packed struct. This module models that
interface. A message is its header fields and its list of parameters (`HipCommon`), a
parameter pointer is the index of a parameter or `none` for NULL (`ParamPtr`), and a field read
takes bytes out of the parameter's contents (`paramBytes`, `paramNat`).

Reading a field is where the C code can go wrong, so a read returns `Except Fault`:
dereferencing NULL is `Fault.nullDeref`, and a field that lies past the end of the parameter's
contents is `Fault.readPastParam`. A pointer to a parameter of another type is no fault: its
bytes are read as the struct the code expects, as C reads them.

Scope. The builders and walkers live in builder.c, which is not among the sources.
`hipGetNextParam` keeps the convention of that interface that a NULL current parameter starts
the walk at the first parameter (`hip_get_param` is written on top of it that way). Field
offsets follow the packed structs of protodefs.h, in the field order of the spec's parameter
table (§6). Numbers are read big-endian, as `ntohs` and `ntohl` read them (`beNat`), and
written by `beBytes`, whose round trip is `beNat_beBytes`.
-/

set_option autoImplicit false
set_option relaxedAutoImplicit false

namespace Hipl.Wire

/-- A byte string. -/
abbrev Bytes := List UInt8

/-- A HIT or an IPv6 address, as the 128-bit number it is. -/
abbrev Hit := Nat

/-- Behaviour the C language leaves undefined. The model makes it visible instead of guessing
what the compiled code would do. -/
inductive Fault
  | nullDeref
  | readPastParam
  | outOfBounds
  | divByZero
  | uninitRead
  | assertion
  deriving DecidableEq, Repr

/-- The parameter types the modelled functions ask for. Their numbers are in protodefs.h, which
is not among the sources; the code only compares types for equality, and every other type is
`other`. -/
inductive HipParamType
  | espInfo | r1Counter | puzzle | solution | seq | ack | diffieHellman | hipTransform
  | encrypted | hostId | espTransform | hmac | hmac2 | hipSignature | dhGroupList
  | espProtTransforms | espProtAnchor | espProtBranch | espProtSecret | espProtRoot
  | other (code : Nat)
  deriving DecidableEq, Repr

/-- One TLV parameter: its type and its contents, without header and padding. -/
structure HipTlv where
  type : HipParamType
  contents : Bytes
  deriving DecidableEq, Repr

/-- A HIP control message (`struct hip_common`): the header fields the core reads and the
parameters in wire order. -/
structure HipCommon where
  type : Nat
  version : Nat
  control : Nat
  hitSender : Hit
  hitReceiver : Hit
  params : List HipTlv
  deriving DecidableEq, Repr

/-- `HIP_UPDATE`, the packet type of an UPDATE (protodefs.h, which is not among the sources). -/
def hipUpdate : Nat := 16

/-- A pointer to a parameter of a message: its index, or `none` for NULL. -/
abbrev ParamPtr := Option Nat

/-- `hip_get_param`: the first parameter of the given type. -/
def hipGetParam (msg : HipCommon) (type : HipParamType) : ParamPtr :=
  msg.params.findIdx? (·.type == type)

/-- `hip_get_next_param`: the parameter after the current one whatever its type, NULL after
the last; from NULL the walk starts at the first parameter. -/
def hipGetNextParam (msg : HipCommon) : ParamPtr → ParamPtr
  | none => if msg.params = [] then none else some 0
  | some i => if i + 1 < msg.params.length then some (i + 1) else none

/-- `hip_build_param`: appends a parameter to a message under construction. -/
def hipBuildParam (msg : HipCommon) (tlv : HipTlv) : HipCommon :=
  { msg with params := msg.params ++ [tlv] }

/-- The message a step built, followed by the parameters the sender adds after it. -/
def withParams (msg : HipCommon) (rest : List HipTlv) : HipCommon :=
  { msg with params := msg.params ++ rest }

/-- The `len` bytes at offset `off` of the contents of the parameter `p` points to. -/
def paramBytes (msg : HipCommon) (p : ParamPtr) (off len : Nat) : Except Fault Bytes :=
  match p with
  | none => .error .nullDeref
  | some i =>
    match msg.params[i]? with
    | none => .error .readPastParam
    | some tlv =>
      if off + len ≤ tlv.contents.length then .ok ((tlv.contents.drop off).take len)
      else .error .readPastParam

/-- `hip_get_param_type`: the type in the header of the parameter `p` points to. -/
def paramType (msg : HipCommon) (p : ParamPtr) : Except Fault HipParamType :=
  match p with
  | none => .error .nullDeref
  | some i =>
    match msg.params[i]? with
    | none => .error .readPastParam
    | some tlv => .ok tlv.type

/-- A big-endian unsigned number, as `ntohs` and `ntohl` read one. -/
def beNat (b : Bytes) : Nat :=
  b.foldl (fun acc x ↦ acc * 256 + x.toNat) 0

/-- A number as `width` big-endian bytes, as `htons` and `htonl` write one. -/
def beBytes : Nat → Nat → Bytes
  | 0, _ => []
  | width + 1, n => beBytes width (n / 256) ++ [UInt8.ofNat (n % 256)]

/-- An unsigned field of `width` bytes at offset `off` of a parameter, in host order. -/
def paramNat (msg : HipCommon) (p : ParamPtr) (off width : Nat) : Except Fault Nat :=
  beNat <$> paramBytes msg p off width

/-- A write of `data` at `off` into a buffer; a write past its end is a fault. -/
def bufWrite (buf : Bytes) (off : Nat) (data : Bytes) : Except Fault Bytes :=
  if off + data.length ≤ buf.length then pure (buf.take off ++ data ++ buf.drop (off + data.length))
  else throw .outOfBounds

/-! ### Simp lemmas -/

@[simp] theorem ok_bind {ε α β : Type} (a : α) (f : α → Except ε β) :
    (Except.ok a >>= f) = f a := rfl

@[simp] theorem error_bind {ε α β : Type} (e : ε) (f : α → Except ε β) :
    (Except.error e >>= f) = .error e := rfl

@[simp] theorem pure_eq_ok {ε α : Type} (a : α) : (pure a : Except ε α) = .ok a := rfl

@[simp] theorem throw_eq_error {ε α : Type} (e : ε) : (throw e : Except ε α) = .error e := rfl

/-- A computation followed by another succeeds exactly when both do. -/
theorem bind_eq_ok {ε α β : Type} {x : Except ε α} {f : α → Except ε β} {b : β} :
    (x >>= f) = .ok b ↔ ∃ a, x = .ok a ∧ f a = .ok b := by
  cases x <;> simp

theorem map_eq_ok {ε α β : Type} {x : Except ε α} {f : α → β} {b : β} :
    (f <$> x) = .ok b ↔ ∃ a, x = .ok a ∧ f a = b := by
  cases x <;> simp [Functor.map, Except.map]

@[simp] theorem hipBuildParam_params (msg : HipCommon) (tlv : HipTlv) :
    (hipBuildParam msg tlv).params = msg.params ++ [tlv] := rfl

@[simp] theorem hipBuildParam_hitSender (msg : HipCommon) (tlv : HipTlv) :
    (hipBuildParam msg tlv).hitSender = msg.hitSender := rfl

@[simp] theorem hipBuildParam_hitReceiver (msg : HipCommon) (tlv : HipTlv) :
    (hipBuildParam msg tlv).hitReceiver = msg.hitReceiver := rfl

@[simp] theorem withParams_nil (msg : HipCommon) : withParams msg [] = msg := by
  simp [withParams]

@[simp] theorem withParams_withParams (msg : HipCommon) (l l' : List HipTlv) :
    withParams (withParams msg l) l' = withParams msg (l ++ l') := by
  simp [withParams]

theorem hipBuildParam_withParams (msg : HipCommon) (l : List HipTlv) (tlv : HipTlv) :
    hipBuildParam (withParams msg l) tlv = withParams msg (l ++ [tlv]) := by
  simp [withParams, hipBuildParam]

@[simp] theorem paramBytes_none (msg : HipCommon) (off len : Nat) :
    paramBytes msg none off len = .error .nullDeref := rfl

@[simp] theorem paramType_none (msg : HipCommon) :
    paramType msg none = .error .nullDeref := rfl

@[simp] theorem uint8_ofNat_toNat (x : UInt8) : UInt8.ofNat x.toNat = x := by
  apply UInt8.eq_of_toBitVec_eq
  simp [UInt8.ofNat, UInt8.toNat]

@[simp] theorem beNat_nil : beNat [] = 0 := rfl

theorem beNat_append_singleton (b : Bytes) (x : UInt8) :
    beNat (b ++ [x]) = beNat b * 256 + x.toNat := by
  simp [beNat, List.foldl_append]

/-- Reading back what `beBytes` wrote gives the number modulo the field's range. -/
theorem beNat_beBytes (width n : Nat) : beNat (beBytes width n) = n % 256 ^ width := by
  induction width generalizing n with
  | zero => simp [beBytes, Nat.mod_one]
  | succ width ih =>
    have hbyte : (UInt8.ofNat (n % 256)).toNat = n % 256 :=
      UInt8.toNat_ofNat_of_lt (Nat.mod_lt _ (by decide))
    rw [beBytes, beNat_append_singleton, ih, hbyte, Nat.pow_succ', Nat.mod_mul]
    omega

theorem beNat_lt (b : Bytes) : beNat b < 256 ^ b.length := by
  induction b using List.reverseRecOn with
  | nil => simp
  | append_singleton b x ih =>
    rw [beNat_append_singleton, List.length_append, List.length_singleton, Nat.pow_succ]
    have hx : x.toNat < 256 := x.val.isLt
    omega

/-- A field of `width` bytes holds less than `256 ^ width`. -/
theorem paramNat_lt {msg : HipCommon} {p : ParamPtr} {off width x : Nat}
    (h : paramNat msg p off width = .ok x) : x < 256 ^ width := by
  simp only [paramNat, map_eq_ok] at h
  obtain ⟨b, hb, rfl⟩ := h
  have hlen : b.length = width := by
    unfold paramBytes at hb
    split at hb
    · cases hb
    · split at hb
      · cases hb
      · split at hb
        · cases hb; simp only [List.length_take, List.length_drop]; omega
        · cases hb
  exact hlen ▸ beNat_lt b

/-- A field is read only through a pointer that is set. -/
theorem isSome_of_paramNat {msg : HipCommon} {p : ParamPtr} {off width x : Nat}
    (h : paramNat msg p off width = .ok x) : p.isSome := by
  cases p
  · cases h
  · rfl

@[simp] theorem length_beBytes (width n : Nat) : (beBytes width n).length = width := by
  induction width generalizing n with
  | zero => rfl
  | succ width ih => simp [beBytes, ih]

/-! ### Walking the parameters -/

theorem hipGetParam_eq_none {msg : HipCommon} {type : HipParamType}
    (h : ∀ tlv ∈ msg.params, tlv.type ≠ type) : hipGetParam msg type = none := by
  simpa [hipGetParam] using h

theorem hipGetParam_eq_some {msg : HipCommon} {type : HipParamType} {pre rest : List HipTlv}
    {tlv : HipTlv} (hmsg : msg.params = pre ++ tlv :: rest)
    (hpre : ∀ t ∈ pre, t.type ≠ type) (htlv : tlv.type = type) :
    hipGetParam msg type = some pre.length := by
  have hnone : pre.findIdx? (·.type == type) = none := by simpa using hpre
  simp [hipGetParam, hmsg, hnone, htlv]

theorem hipGetNextParam_some {msg : HipCommon} {i : Nat} (h : i + 1 < msg.params.length) :
    hipGetNextParam msg (some i) = some (i + 1) := by
  simp [hipGetNextParam, h]

/-- Entry `j` of a run of parameters built from a list, after `pre`. -/
theorem getElem?_append_map {α : Type} {msg : HipCommon} {pre rest : List HipTlv} {l : List α}
    {f : α → HipTlv} (hmsg : msg.params = pre ++ l.map f ++ rest) {j : Nat} (hj : j < l.length) :
    msg.params[pre.length + j]? = some (f l[j]) := by
  rw [hmsg, List.append_assoc, List.getElem?_append_right (by omega), Nat.add_sub_cancel_left,
    List.getElem?_append_left (by simpa using hj)]
  simp [hj]

/-- A parameter the message has is still the first of its type after more are appended. -/
theorem hipGetParam_withParams {msg : HipCommon} {l : List HipTlv} {type : HipParamType}
    {i : Nat} (h : hipGetParam msg type = some i) : hipGetParam (withParams msg l) type = some i := by
  simp only [hipGetParam, withParams] at h ⊢
  rw [List.findIdx?_append, h]
  rfl

theorem lt_length_of_hipGetParam {msg : HipCommon} {type : HipParamType} {i : Nat}
    (h : hipGetParam msg type = some i) : i < msg.params.length :=
  (List.findIdx?_eq_some_iff_getElem.mp h).1

/-- Appending parameters does not change a read of an earlier parameter. -/
theorem paramNat_withParams {msg : HipCommon} {l : List HipTlv} {i : Nat}
    (hi : i < msg.params.length) (off width : Nat) :
    paramNat (withParams msg l) (some i) off width = paramNat msg (some i) off width := by
  simp [paramNat, paramBytes, withParams, List.getElem?_append_left hi]

/-- The first parameter of a type is the first of a run of that type, when none comes
before it. -/
theorem hipGetParam_append_map {α : Type} {msg : HipCommon} {pre rest : List HipTlv}
    {l : List α} {f : α → HipTlv} {type : HipParamType}
    (hmsg : msg.params = pre ++ l.map f ++ rest) (hpre : ∀ x ∈ pre, x.type ≠ type)
    (hl : l ≠ []) (hf : ∀ a, (f a).type = type) :
    hipGetParam msg type = some pre.length := by
  obtain ⟨a, l', rfl⟩ := List.exists_cons_of_ne_nil hl
  have hmsg' : msg.params = pre ++ f a :: (l'.map f ++ rest) := by simp [hmsg]
  exact hipGetParam_eq_some hmsg' hpre (hf a)

theorem bufWrite_eq_ok {buf b data : Bytes} {off : Nat} (h : bufWrite buf off data = .ok b) :
    off + data.length ≤ buf.length ∧ b = buf.take off ++ data ++ buf.drop (off + data.length) := by
  unfold bufWrite at h
  split at h
  · cases h
    exact ⟨‹_›, rfl⟩
  · cases h

/-- A write that fits succeeds and keeps the buffer's length. -/
theorem bufWrite_ok {buf data : Bytes} {off : Nat} (h : off + data.length ≤ buf.length) :
    ∃ b, bufWrite buf off data = .ok b ∧ b.length = buf.length :=
  ⟨_, by rw [bufWrite, if_pos h]; rfl,
    by simp only [List.length_append, List.length_take, List.length_drop]; omega⟩

end Hipl.Wire
