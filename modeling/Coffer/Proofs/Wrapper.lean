import Coffer.Proofs.Bytes.Hex
import Coffer.Proofs.Cipher
import Coffer.Proofs.Error
import Coffer.Proofs.Payload.Document
import Coffer.Proofs.Payload.Validity
import Coffer.Wrapper
/-!
# What is wrapped can be unwrapped

A wrapper is a record like any other, and its text is ASCII because hexadecimal digits are. Reading
the text back gives the wrapper, decoding gives the ciphertext, the cipher gives the bytes of the
payload and those give the payload.
-/

namespace Coffer

open Bytes (IsAscii)

namespace Json

theorem isAscii_decimal (value : Nat) : IsAscii (decimal value) := by
  intro byte isIn
  have digit := isDigit_of_mem_decimal isIn
  simp only [isDigit, Bool.and_eq_true, decide_eq_true_eq] at digit
  exact UInt8.lt_of_le_of_lt digit.2 (by decide)

theorem isAscii_escapeByte {byte : UInt8} (ascii : byte < 0x80) : IsAscii (escapeByte byte) := by
  apply Bytes.of_each_below byte ascii
  decide +kernel

theorem isAscii_escape {text : String} (ascii : IsAscii (Bytes.ofText text)) :
    IsAscii (escape text) :=
  .flatMap fun byte isIn => isAscii_escapeByte (ascii byte isIn)

theorem isAscii_quote {spelling : Bytes} (ascii : IsAscii spelling) : IsAscii (quote spelling) :=
  .cons (by decide) (.append ascii (.cons (by decide) Bytes.isAscii_nil))

theorem isAscii_renderMembers {members : List (Bytes × Json)}
    (keys : ∀ entry ∈ members, IsAscii entry.1)
    (values : ∀ entry ∈ members, IsAscii entry.2.render) : IsAscii (renderMembers members) := by
  induction members with
  | nil => exact .cons (by decide) Bytes.isAscii_nil
  | cons first others ih =>
    have later := ih (fun entry isIn => keys entry (List.mem_cons_of_mem first isIn))
      fun entry isIn => values entry (List.mem_cons_of_mem first isIn)
    have key := keys first List.mem_cons_self
    have value := values first List.mem_cons_self
    have closing : IsAscii (following 0x7d others (renderMembers others)) := by
      unfold following
      split
      · exact .cons (by decide) Bytes.isAscii_nil
      · exact .cons (by decide) later
    rw [renderMembers_cons]
    exact .cons (by decide) (.append key
      (.cons (by decide) (.cons (by decide) (.append value closing))))

end Json

namespace Wrapper

/-- The fields of a wrapper. -/
def fields (wrapper : Wrapper) : List (String × Option Json) :=
  [("version", some (.ofNat wrapper.version.toNat)),
    ("pbkdf2_iterations", wrapper.iterations.map fun count => .ofNat count.toNat),
    ("payload", some (.ofText wrapper.payload))]

theorem toJson_eq (wrapper : Wrapper) : wrapper.toJson = .object (Json.written wrapper.fields) := by
  obtain ⟨version, iterations, payload⟩ := wrapper
  cases iterations <;> rfl

theorem ofJson?_toJson (wrapper : Wrapper) : ofJson? wrapper.toJson = some wrapper := by
  have found := Json.fields?_written wrapper.fields
    (show ["version", "pbkdf2_iterations", "payload"].Nodup by decide)
  have iterations : Json.optional Json.word32? (wrapper.iterations.map fun count =>
      .ofNat count.toNat) = some wrapper.iterations :=
    Json.optional_map wrapper.iterations (fun _ => Json.noConfusion) Json.word32?_ofNat
  simp only [fields, List.map_cons, List.map_nil] at found
  simp only [toJson_eq, ofJson?, fields, found, Option.bind_eq_bind, Option.bind_some,
    Json.required, Json.nat?_ofNat wrapper.version.toNat_lt, UInt8.ofNat_toNat, iterations,
    Json.text?_ofText]
  rfl

theorem legible_toJson (wrapper : Wrapper) : wrapper.toJson.Legible := by
  rw [toJson_eq]
  exact Json.legible_written wrapper.fields
    (by simp [fields, Json.legible_ofText, Json.Legible.number])

theorem isAscii_render {wrapper : Wrapper} (ascii : IsAscii (Bytes.ofText wrapper.payload)) :
    IsAscii wrapper.toJson.render := by
  have payload : IsAscii (Json.ofText wrapper.payload).render := by
    rw [Json.ofText, Json.render]
    exact Json.isAscii_quote (Json.isAscii_escape ascii)
  have number (value : Nat) : IsAscii (Json.ofNat value).render := by
    rw [Json.ofNat, Json.render]
    exact Json.isAscii_decimal value
  rw [toJson_eq, Json.render]
  -- The keys are fixed names, and all values but the payload are numbers.
  refine .cons (by decide) (Json.isAscii_renderMembers ?_ ?_)
  · intro entry isIn
    obtain ⟨name, value, inFields, rfl⟩ := Json.mem_written isIn
    have names : ∀ name ∈ wrapper.fields.map Prod.fst, IsAscii (Bytes.ofText name) :=
      show ∀ name ∈ ["version", "pbkdf2_iterations", "payload"], IsAscii (Bytes.ofText name) by
        decide +kernel
    exact Json.isAscii_escape (names name (List.mem_map.mpr ⟨(name, some value), inFields, rfl⟩))
  · intro entry isIn
    obtain ⟨name, value, inFields, rfl⟩ := Json.mem_written isIn
    simp only [fields, List.mem_cons, Prod.mk.injEq, Option.some.injEq, List.not_mem_nil,
      or_false] at inFields
    rcases inFields with ⟨_, rfl⟩ | ⟨_, counted⟩ | ⟨_, rfl⟩
    · exact number _
    · obtain ⟨count, _, rfl⟩ := Option.map_eq_some_iff.mp counted.symm
      exact number _
    · exact payload

theorem ofText?_toText {wrapper : Wrapper} (ascii : IsAscii (Bytes.ofText wrapper.payload)) :
    ofText? wrapper.toText = some wrapper := by
  rw [ofText?, toText, Bytes.ofText_asciiText (isAscii_render ascii),
    Json.read?_render wrapper.legible_toJson, Option.bind_some, ofJson?_toJson]

end Wrapper

theorem Payload.declaredIterations_eq (payload : Payload) :
    payload.declaredIterations = if payload.version = .v1 then
      none else some payload.iterations := by
  unfold declaredIterations
  cases payload.version with
  | v1 => rfl
  | v2 => rfl
  | v3 => rfl
  | v4 => rfl

/-- How often the password of a wrapped payload is stretched, which is never no time at all. -/
theorem Payload.getD_declaredIterations_pos {payload : Payload}
    (positive : 0 < payload.iterations) : 0 < payload.declaredIterations.getD firstIterations := by
  rw [declaredIterations_eq]
  split
  · decide
  · exact positive

theorem wrap_of_encrypt {cipher : Cipher} {seed : Bytes} {payload : Payload} {password : String}
    {bytes : Bytes} (encrypted : cipher.encrypt seed payload.render password
      (payload.declaredIterations.getD firstIterations) = .ok bytes) :
    wrap cipher seed payload password = .ok
      ⟨Wrapper.toText ⟨payload.version.number, payload.declaredIterations, Hex.encode bytes⟩,
        .ofText (Wrapper.toText ⟨payload.version.number, payload.declaredIterations,
          Hex.encode bytes⟩)⟩ := by
  simp only [wrap, encrypted]

theorem wrap_eq_ok {cipher : Cipher} {seed : Bytes} {payload : Payload} {password : String}
    {wrapped : Wrapped} (succeeds : wrap cipher seed payload password = .ok wrapped) :
    ∃ bytes, cipher.encrypt seed payload.render password
        (payload.declaredIterations.getD firstIterations) =
        .ok bytes ∧
      wrapped.text = Wrapper.toText ⟨payload.version.number, payload.declaredIterations,
        Hex.encode bytes⟩ ∧
      wrapped.checksum = .ofText wrapped.text := by
  unfold wrap at succeeds
  cases encrypted : cipher.encrypt seed payload.render password
      (payload.declaredIterations.getD firstIterations) with
  | error cause => simp only [encrypted] at succeeds; cases succeeds
  | ok bytes =>
    simp only [encrypted] at succeeds
    cases succeeds
    exact ⟨bytes, rfl, rfl, rfl⟩

theorem Wrapper.isAscii_wrapped (bytes : Bytes) : IsAscii (Bytes.ofText (Hex.encode bytes)) := by
  rw [Hex.ofText_encode]
  exact Hex.isAscii_digits bytes

theorem Wrapper.ofText?_wrapped (version : UInt8) (iterations : Option UInt32) (bytes : Bytes) :
    ofText? (toText ⟨version, iterations, Hex.encode bytes⟩) =
      some ⟨version, iterations, Hex.encode bytes⟩ :=
  ofText?_toText (isAscii_wrapped bytes)

theorem Wrapper.checksum_wrapped (version : UInt8) (iterations : Option UInt32) (bytes : Bytes) :
    Checksum.ofText (toText ⟨version, iterations, Hex.encode bytes⟩) =
      .ofBytes (toJson ⟨version, iterations, Hex.encode bytes⟩).render := by
  rw [Checksum.ofText, toText, Bytes.ofText_asciiText (isAscii_render (isAscii_wrapped bytes))]

theorem unwrap_wrap {cipher : Cipher} (inverts : cipher.Inverts) {seed : Bytes} {payload : Payload}
    {password : String} {wrapped : Wrapped} (positive : 0 < payload.iterations)
    (succeeds : wrap cipher seed payload password = .ok wrapped) :
    unwrap cipher wrapped.text password =
      (liftError .validation payload.validate).map fun _ => (payload, wrapped.checksum) := by
  obtain ⟨bytes, encrypted, text, checksum⟩ := wrap_eq_ok succeeds
  have decrypted := inverts seed payload.render password _ bytes
    (Payload.getD_declaredIterations_pos positive) encrypted
  have plain : Wrapper.decrypt ⟨payload.version.number, payload.declaredIterations,
      Hex.encode bytes⟩ cipher password = .ok payload.render := by
    simp only [Wrapper.decrypt, Hex.decode_encode, decrypted]
  rw [checksum, unwrap, text, Wrapper.ofText?_wrapped]
  simp only [Version.ofNumber?_number, plain, bind_ok, Payload.read?_render, ne_eq,
    not_true_eq_false, if_false]
  cases payload.validate with
  | error cause => rfl
  | ok _ => rfl

/-- Every payload whose password is stretched at all can be wrapped, whatever else it holds. What is
wrapped is read back as that payload if it is valid, and as what is wrong with it otherwise. The
first version says no count and is closed with the count that stands for none. -/
theorem wrap_then_unwrap {cipher : Cipher} (encrypts : cipher.Encrypts) (inverts : cipher.Inverts)
    (seed : Bytes) (payload : Payload) (password : String) (positive : 0 < payload.iterations) :
    ∃ bytes wrapped,
      cipher.encrypt seed payload.render password
          (if payload.version = .v1 then firstIterations else payload.iterations) = .ok bytes ∧
        wrap cipher seed payload password = .ok wrapped ∧
        Wrapper.ofText? wrapped.text = some ⟨payload.version.number,
          if payload.version = .v1 then none else some payload.iterations, Hex.encode bytes⟩ ∧
        wrapped.checksum = .ofText wrapped.text ∧
        unwrap cipher wrapped.text password =
          match payload.validate with
          | .ok _ => .ok (payload, wrapped.checksum)
          | .error cause => .error (.validation cause) := by
  obtain ⟨bytes, encrypted⟩ := encrypts seed payload.render password _
    (Payload.getD_declaredIterations_pos positive)
  have succeeds := wrap_of_encrypt encrypted
  have unwrapped := unwrap_wrap inverts positive succeeds
  have declared := payload.declaredIterations_eq
  refine ⟨bytes, _, ?_, succeeds, ?_, rfl, ?_⟩
  · rw [declared] at encrypted
    rw [← encrypted]
    split <;> rfl
  · rw [Wrapper.ofText?_wrapped, declared]
  · rw [unwrapped]
    cases payload.validate with
    | error cause => rfl
    | ok _ => rfl

theorem exists_unwrap_of_valid {cipher : Cipher} (encrypts : cipher.Encrypts)
    (inverts : cipher.Inverts) {payload : Payload}
    (valid : payload.validate = .ok ()) (password : String) :
    ∃ text checksum, unwrap cipher text password = .ok (payload, checksum) := by
  have positive := Payload.positive_of_valid valid
  obtain ⟨bytes, encrypted⟩ :=
    encrypts [] payload.render password _ (Payload.getD_declaredIterations_pos positive)
  have unwrapped := unwrap_wrap inverts positive (wrap_of_encrypt encrypted)
  rw [valid] at unwrapped
  exact ⟨_, _, unwrapped⟩

def Payload.early : Payload := { flat "guid" "key" 7 with version := .v1 }

theorem wrap_then_unwrap_early : ∃ wrapped, wrap Toy.cipher [] .early "password" = .ok wrapped ∧
    unwrap Toy.cipher wrapped.text "password" = .ok (.early, wrapped.checksum) := by
  obtain ⟨_, wrapped, _, isWrapped, _, _, unwrapped⟩ :=
    wrap_then_unwrap Toy.cipher_encrypts Toy.cipher_inverts [] .early "password" (by decide)
  exact ⟨wrapped, isWrapped, unwrapped⟩

theorem unwrap_eq_ok {cipher : Cipher} {text password : String} {payload : Payload}
    {checksum : Checksum} (succeeds : unwrap cipher text password = .ok (payload, checksum)) :
    payload.validate = .ok () ∧ checksum = .ofText text := by
  unfold unwrap at succeeds
  split at succeeds
  · cases succeeds
  · split at succeeds
    · cases succeeds
    · obtain ⟨plain, _, succeeds⟩ := bind_eq_ok.mp succeeds
      split at succeeds
      · cases succeeds
      · split at succeeds
        · cases succeeds
        · obtain ⟨_, valid, succeeds⟩ := bind_eq_ok.mp succeeds
          cases succeeds
          exact ⟨liftError_eq_ok.mp valid, rfl⟩

end Coffer
