import Osvbng.Radius.CoA

/-!
# The answers of the CoA listener

The Response Authenticator of an answer is written first and the Message-Authenticator
after it. The receiver takes them the other way round: the Message-Authenticator over the
Request Authenticator, and the Response Authenticator over the whole answer.
-/

namespace Osvbng.Radius
open List Option Lib Lib.Slice Lib.NetIP

/-- MD5 and HMAC-MD5, of which only the length of their values is known. -/
structure Digests where
  md5 : Bytes → Bytes
  hmac : Bytes → Bytes → Bytes
  length_md5 : ∀ b, (md5 b).length = 16
  length_hmac : ∀ key b, (hmac key b).length = 16

/-- `Encode`, but for the authenticator, which is overwritten. -/
def encodeResponse (p : Packet) : Option Bytes :=
  if p.attributes.all (·.2.length ≤ 253) ∧ (marshal p).length ≤ 4096 then some (marshal p) else none

variable (h : Digests) (secret : Bytes) (request : Packet) (code : UInt8) (errorCause : Nat)
  (requestRaw sent : Bytes)

/-- The answer, with nothing in the place of its authenticators. -/
def response : Packet where
  code := code
  identifier := request.identifier
  authenticator := List.replicate 16 0
  attributes := request.attributes.filter (·.1 = attrTypeProxyState) ++
    (if 0 < errorCause then [(attrTypeErrorCause, putBe 4 errorCause)] else []) ++
    (if (findAttr80 requestRaw).isSome then [(attrTypeMessageAuth, List.replicate 16 0)] else [])

def sendResponse : Option Bytes := do
  let requestHasMA := (findAttr80 requestRaw).isSome
  let encoded ← encodeResponse (response request code errorCause requestRaw)
  let encoded := splice encoded 4 (authenticatorOf requestRaw)
  let encoded := splice encoded 4 (h.md5 (encoded ++ secret))
  match if requestHasMA then findAttr80 encoded else none with
  | none => encoded
  | some offset =>
    let encoded := splice encoded offset (List.replicate 16 0)
    splice encoded offset (h.hmac secret encoded)

/-- What the client checks of an answer. -/
structure Verifies : Prop where
  response : authenticatorOf sent =
    h.md5 (sent.take 4 ++ authenticatorOf requestRaw ++ attributesOf sent ++ secret)
  message : (findAttr80 requestRaw).isSome → ∃ offset, findAttr80 sent = some offset ∧
    (sent.drop offset).take 16 = h.hmac secret
      (splice (splice sent 4 (authenticatorOf requestRaw)) offset (List.replicate 16 0))

variable {h secret request code errorCause requestRaw sent}

theorem splice_authenticator {head auth value : Bytes} (attrs : Bytes) (hhead : head.length = 4)
    (hauth : auth.length = 16) (hvalue : value.length = 16) :
    splice (head ++ auth ++ attrs) 4 value = head ++ value ++ attrs := by
  simp [splice, drop_append, hhead, hauth, hvalue]

theorem attributesOf_layout {auth attrs : Bytes} (identifier : UInt8) (hauth : auth.length = 16)
    (hattrs : attrs.length ≤ 4076) :
    attributesOf ([code, identifier] ++ putBe 2 (20 + attrs.length) ++ auth ++ attrs) = attrs := by
  have hlen : beNat (putBe 2 (20 + attrs.length)) = 20 + attrs.length := by
    rw [beNat_putBe]
    omega
  rw [attributesOf, show lengthField _ = 20 + attrs.length by simp [lengthField, hlen],
    take_of_length_le (by simp [hauth]; omega), drop_left' (by simp [hauth])]

theorem splice_attributes {pre : Bytes} (attrs : Bytes) {offset : Nat} (value : Bytes)
    (hpre : pre.length ≤ offset) : splice (pre ++ attrs) offset value =
      pre ++ splice attrs (offset - pre.length) value := by
  have hdrop : offset + value.length - pre.length = offset - pre.length + value.length := by omega
  rw [splice, take_append, take_of_length_le hpre, drop_append, drop_of_length_le (by omega), hdrop]
  simp [splice]

theorem findAttr80From_bounds {raw : Bytes} {fuel i offset : Nat}
    (hfind : findAttr80From raw fuel i = some offset) :
    i + 2 ≤ offset ∧ offset + 16 ≤ raw.length := by
  induction fuel generalizing i with
  | zero => cases hfind
  | succ fuel ih =>
    unfold findAttr80From at hfind
    dsimp only at hfind
    split at hfind
    · split at hfind
      · cases hfind
      · split at hfind
        · cases hfind
          omega
        · have := ih hfind
          omega
    · cases hfind

theorem findAttr80_bounds {raw : Bytes} {offset : Nat} (hfind : findAttr80 raw = some offset) :
    22 ≤ offset ∧ offset + 16 ≤ raw.length := by
  unfold findAttr80 at hfind
  split at hfind
  · cases hfind
  · exact findAttr80From_bounds hfind

/-- What is encoded is a header with room for the authenticator, and the attributes. -/
theorem layout_of_encodeResponse {p : Packet} {encoded : Bytes}
    (hauth : p.authenticator = List.replicate 16 0) (hencoded : encodeResponse p = some encoded) :
    ∃ attrs : Bytes, attrs.length ≤ 4076 ∧ encoded =
      [p.code, p.identifier] ++ putBe 2 (20 + attrs.length) ++ List.replicate 16 0 ++ attrs := by
  obtain ⟨⟨-, hsize⟩, ⟨⟩⟩ := ite_none_right_eq_some.mp hencoded
  refine ⟨p.attributes.flatMap fun a => [a.1, UInt8.ofNat (a.2.length + 2)] ++ a.2, ?_, ?_⟩
  · simp only [marshal, length_append, length_cons, length_nil, length_putBe, hauth,
      length_replicate] at hsize
    omega
  · rw [marshal, hauth]

theorem length_authenticatorOf (hlong : 20 ≤ requestRaw.length) :
    (authenticatorOf requestRaw).length = 16 := by
  rw [authenticatorOf, length_take, length_drop]
  omega

theorem verifies_of_plain (hlong : 20 ≤ requestRaw.length) (hplain : findAttr80 requestRaw = none)
    (hsent : sendResponse h secret request code errorCause requestRaw = some sent) :
    Verifies h secret requestRaw sent := by
  obtain ⟨encoded, hencoded, hsent⟩ := bind_eq_some_iff.mp hsent
  obtain ⟨attrs, hattrs, rfl⟩ := layout_of_encodeResponse rfl hencoded
  have hauth := length_authenticatorOf hlong
  simp only [hplain, isSome_none, Bool.false_eq_true, if_false] at hsent
  rw [splice_authenticator attrs (by simp) (by simp) hauth,
    splice_authenticator attrs (by simp) hauth (h.length_md5 _)] at hsent
  cases hsent
  refine ⟨?_, by simp [hplain]⟩
  rw [attributesOf_layout _ (h.length_md5 _) hattrs]
  simp [authenticatorOf, h.length_md5]

/-- Digests that tell one text from all others. -/
def Digests.telling (text value : Bytes) (hvalue : value.length = 16) : Digests where
  md5 b := List.replicate 16 (if b = text then 0 else 1)
  hmac _ _ := value
  length_md5 _ := length_replicate ..
  length_hmac _ _ := hvalue

/-- With digests that tell the text of the answer, its authenticator is zero when the place of
the other value is looked for. -/
theorem sendResponse_telling (secret value : Bytes) (hvalue : value.length = 16)
    {head attrs : Bytes} (hlong : 20 ≤ requestRaw.length) (hsigned : (findAttr80 requestRaw).isSome)
    (hhead : head.length = 4) (hencoded : encodeResponse (response request code errorCause
      requestRaw) = some (head ++ List.replicate 16 0 ++ attrs)) :
    let encoded := head ++ List.replicate 16 0 ++ attrs
    sendResponse (.telling (head ++ authenticatorOf requestRaw ++ attrs ++ secret) value hvalue)
      secret request code errorCause requestRaw = (findAttr80 encoded).elim encoded
        fun offset => splice (splice encoded offset (List.replicate 16 0)) offset value := by
  have hauth := length_authenticatorOf hlong
  unfold sendResponse
  rw [hencoded, bind_eq_bind, bind_some]
  dsimp only
  rw [if_pos hsigned, splice_authenticator attrs hhead (by simp) hauth,
    splice_authenticator attrs hhead hauth (Digests.length_md5 _ _)]
  simp only [Digests.telling, if_true]
  cases findAttr80 (head ++ List.replicate 16 0 ++ attrs) <;> rfl

theorem splice_splice {raw a b : Bytes} {offset : Nat} (hlen : a.length = b.length)
    (hoffset : offset ≤ raw.length) :
    splice (splice raw offset a) offset b = splice raw offset b := by
  have htake : (raw.take offset).length = offset := by simpa using hoffset
  simp [splice, drop_append, htake, hlen]

/-- The Response Authenticator does not cover the other value of an answer. -/
theorem not_verifies_telling {attrs value : Bytes} {identifier : UInt8} {offset : Nat}
    (hvalue : value.length = 16) (hattrs : attrs.length ≤ 4076)
    (hoffset : offset + 16 ≤ attrs.length) (hne : value ≠ (attrs.drop offset).take 16) :
    let head := [code, identifier] ++ putBe 2 (20 + attrs.length)
    ¬ Verifies (.telling (head ++ authenticatorOf requestRaw ++ attrs ++ secret) value hvalue)
      secret requestRaw (head ++ List.replicate 16 0 ++ splice attrs offset value) := by
  intro head hverifies
  have hlen : (splice attrs offset value).length = attrs.length := by
    simp only [splice, length_append, length_take, length_drop]
    omega
  have hlayout : attributesOf (head ++ List.replicate 16 0 ++ splice attrs offset value) =
      splice attrs offset value := by
    dsimp only [head]
    rw [← hlen]
    exact attributesOf_layout identifier (by simp) (by omega)
  have hhead : head.length = 4 := by simp [head]
  have hresponse := hverifies.response
  rw [hlayout, take_append_of_le_length (by simp [hhead]), take_left' hhead, authenticatorOf,
    append_assoc, drop_left' hhead, take_left' (by simp)] at hresponse
  have htext := (replicate_inj.mp hresponse).2.resolve_left (by decide)
  have heq : splice attrs offset value = attrs := by simpa using htext
  refine hne ?_
  rw [← heq, splice, append_assoc, drop_left' (by rw [length_take]; omega), ← hvalue, take_left]

def realDigests : Digests :=
  ⟨Md5.sum, Md5.hmac, fun b => by simp [Md5.sum, Md5.putLe],
    fun k b => by simp [Md5.hmac, Md5.sum, Md5.putLe]⟩

def plainRequest : Bytes := [codeDisconnectRequest, 7, 0, 20] ++ List.replicate 16 0

def signedRequest : Bytes :=
  let raw := [codeDisconnectRequest, 7, 0, 38] ++ List.replicate 16 0 ++ [80, 18] ++
    List.replicate 16 0
  splice raw 22 (Md5.hmac [0x73] raw)

def answerTo (requestRaw : Bytes) : Option Bytes :=
  sendResponse realDigests [0x73] ⟨codeDisconnectRequest, 7, [], []⟩ 41 0 requestRaw

end Osvbng.Radius
