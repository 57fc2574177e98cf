import WebSso.AuthnRequest
import WebSso.Proofs.Codec.Base64
import WebSso.Proofs.Codec.Deflate.Bound
import WebSso.Proofs.Codec.Deflate.Stored

/-!
# Redirected requests

A redirected request is compressed, and whoever sends it decides how.  It is read within a bound, so
that a short text cannot make much of itself; what comes out is all that was compressed or nothing,
never a part of it.

## What is here

* `decodeRedirected_of_bytes`, decoding as inflating what the text is the base64 form of;
* `decodeRedirected_bounded`: a request comes to what its text is the compressed form of, if that is
  within the bound, and is refused otherwise; with `decodeRedirected_not_standard`, where the reader
  follows other rules than the format as it is defined;
* `AuthnRequestDraft.decodeRedirected_toRedirectWith`: a request that was sent is what is received,
  however it was compressed.
-/

set_option autoImplicit false
namespace WebSso

open Deflate (Rules)

/-! ## Decoding -/

/-- What becomes of a redirected request once its bytes are known. -/
theorem decodeRedirected_of_bytes {text : String} {compressed : Bytes}
    (h : Base64.decodeText? text = some compressed) :
    decodeRedirected text =
      match Deflate.inflate maxInflated compressed with
      | .ok bytes => .ok bytes
      | .error .damaged => .error (.invalidRequest "inflate:")
      | .error .tooLarge => .error (.invalidRequest "inflated request is too large") := by
  rewrite [decodeRedirected, Base64.decodePosted_eq_ok_iff.2 h]
  rfl

theorem decodeRedirected_eq_ok_iff {text : String} {compressed bytes : Bytes}
    (h : Base64.decodeText? text = some compressed) :
    decodeRedirected text = .ok bytes ↔
      Rules.followed.Inflates compressed bytes ∧ bytes.length ≤ maxInflated := by
  rw [decodeRedirected_of_bytes h, ← Deflate.inflate_eq_ok_iff]
  cases Deflate.inflate maxInflated compressed with
  | ok data => simp only [Except.ok.injEq]
  | error cause =>
    refine ⟨fun hok => ?_, nofun⟩
    cases cause <;> cases hok

theorem decodeRedirected_of_lt {text : String} {compressed data : Bytes}
    (h : Base64.decodeText? text = some compressed)
    (hdata : Rules.followed.Inflates compressed data) (hlt : maxInflated < data.length) :
    decodeRedirected text = .error (.invalidRequest "inflated request is too large") := by
  rw [decodeRedirected_of_bytes h, Deflate.inflate_of_lt hdata hlt]

/-- Nothing else than a request that is not acceptable is reported. -/
theorem exists_ok_or_invalidRequest {text : String} {compressed : Bytes}
    (h : Base64.decodeText? text = some compressed) :
    (∃ bytes, decodeRedirected text = .ok bytes) ∨
      ∃ detail, decodeRedirected text = .error (.invalidRequest detail) := by
  rw [decodeRedirected_of_bytes h]
  cases Deflate.inflate maxInflated compressed with
  | ok bytes => exact .inl ⟨bytes, rfl⟩
  | error cause =>
    cases cause
    · exact .inr ⟨_, rfl⟩
    · exact .inr ⟨_, rfl⟩

/-- **A redirected request is all that was compressed, or it is refused.**  It comes to some bytes
if and only if its text begins with the compressed form of just these and they are within the bound;
longer data is refused for its length, and a text that begins with nothing of the kind is refused
too.  No text is the compressed form of two things, and what every reader takes is taken here. -/
theorem decodeRedirected_bounded {text : String} {compressed : Bytes}
    (h : Base64.decodeText? text = some compressed) :
    (∀ bytes, decodeRedirected text = .ok bytes ↔
        Rules.followed.Inflates compressed bytes ∧ bytes.length ≤ maxInflated) ∧
      (∀ data, Rules.followed.Inflates compressed data → maxInflated < data.length →
        decodeRedirected text = .error (.invalidRequest "inflated request is too large")) ∧
      ((¬∃ data, Rules.followed.Inflates compressed data) →
        ∃ detail, decodeRedirected text = .error (.invalidRequest detail)) ∧
      (∀ data data', Rules.followed.Inflates compressed data →
        Rules.followed.Inflates compressed data' → data = data') ∧
      ∀ data, Rules.common.Inflates compressed data → Rules.followed.Inflates compressed data := by
  refine ⟨fun bytes => decodeRedirected_eq_ok_iff h, fun data => decodeRedirected_of_lt h,
    fun hnone => ?_, fun data data' => Rules.Inflates.unique,
    fun data => Rules.Inflates.mono Rules.followed_extends_common⟩
  rcases exists_ok_or_invalidRequest h with ⟨bytes, hok⟩ | herror
  · exact absurd ⟨bytes, ((decodeRedirected_eq_ok_iff h).1 hok).1⟩ hnone
  · exact herror

/-- A letter under the fixed codes is read, and so its stream is its compressed form. -/
theorem decodeRedirected_bounded_letter :
    Base64.decodeText? "SwQA" = some [75, 4, 0] ∧ decodeRedirected "SwQA" = .ok [97] ∧
      Rules.followed.Inflates [75, 4, 0] [97] := by
  have hbytes : Base64.decodeText? "SwQA" = some [75, 4, 0] := by decide +kernel
  have hread : decodeRedirected "SwQA" = .ok [97] := by decide +kernel
  exact ⟨hbytes, hread, (((decodeRedirected_bounded hbytes).1 [97]).1 hread).1⟩

/-! ## Where the reader goes its own way -/

namespace Deflate

open Code (HasWord word)

/-- One block under the fixed codes that begins with a copy of three bytes from one byte back. -/
def earlyCopy : Bytes := [3, 2, 0]

/-- What is left of it behind its first bit. -/
def earlyKind : BitStream := ⟨true :: List.replicate 6 false, [2, 0]⟩

/-- What is left of it behind the kind of its block. -/
def earlyTokens : BitStream := ⟨List.replicate 5 false, [2, 0]⟩

/-- Its only block is under the fixed codes. -/
theorem kind_of_reads_earlyKind {kind : Nat} {w : List Bool} {t : BitStream}
    (hlt : kind < 2 ^ 2) (hreads : earlyKind.Reads (lowBits 2 kind ++ w) t) :
    kind = 1 ∧ earlyTokens.Reads w t := by
  obtain ⟨u, hu, hw⟩ := BitStream.reads_append.1 hreads
  have hread := BitStream.number_eq_ok_iff.2 ⟨hlt, hu⟩
  rw [show earlyKind.number 2 = .ok (1, earlyTokens) from rfl, Except.ok.injEq,
    Prod.mk.injEq] at hread
  exact ⟨hread.1.symm, hread.2 ▸ hw⟩

/-- Its first token is the copy. -/
theorem exists_token_earlyTokens {codes : Codes}
    (hcodes : codes.Decode fixedLiteralLengths fixedDistanceLengths) :
    ∃ u, token codes earlyTokens = .ok (.copy 3 1, u) := by
  have hwrites : WritesToken fixedLiteralLengths fixedDistanceLengths (.copy 3 1)
      (word fixedLiteralLengths 257 ++ lowBits 0 0
        ++ (word fixedDistanceLengths 0 ++ lowBits 0 0)) :=
    .copy (@WritesValue.intro _ 257 _ 0 0 ⟨3, 0⟩ rfl (by decide) (by decide))
      (@WritesValue.intro _ 0 _ 0 0 ⟨1, 0⟩ rfl (by decide) (by decide))
  have hstart : earlyTokens.toList = word fixedLiteralLengths 257 ++ lowBits 0 0
      ++ (word fixedDistanceLengths 0 ++ lowBits 0 0) ++ List.replicate 9 false := by
    decide +kernel
  obtain ⟨u, hreads, -⟩ := BitStream.exists_reads hstart
  exact ⟨u, (token_eq_ok_iff hcodes).2 ⟨_, hwrites, hreads⟩⟩

/-- Nothing comes before the first byte, so that no data has this form. -/
theorem not_inflates_earlyCopy (data : Bytes) : ¬Rules.standard.Inflates earlyCopy data := by
  obtain ⟨codes, -, hcodes⟩ := exists_fixedCodes
  obtain ⟨v, htoken⟩ := exists_token_earlyTokens hcodes
  have hbit : (BitStream.ofBytes earlyCopy).bit = .ok (true, earlyKind) := rfl
  rintro ⟨w, hw, rest, hrest⟩
  obtain ⟨t, hreads, -⟩ := BitStream.exists_reads
    (show (BitStream.ofBytes earlyCopy).toList = w ++ rest from hrest.symm)
  cases hw with
  | more =>
    obtain ⟨u, hu, -⟩ := hreads
    rw [hbit] at hu
    cases hu
  | last hblock =>
    obtain ⟨u, hu, hreads⟩ := hreads
    rw [hbit, Except.ok.injEq, Prod.mk.injEq] at hu
    obtain ⟨-, rfl⟩ := hu
    cases hblock with
    | stored =>
      simp only [List.append_assoc] at hreads
      cases (kind_of_reads_earlyKind (by decide) hreads).1
    | sent =>
      rw [List.append_assoc] at hreads
      cases (kind_of_reads_earlyKind (by decide) hreads).1
    | fixed htokens =>
      obtain ⟨k, u, hk, hfollows⟩ := (writesTokens_iff hcodes).1
        ⟨_, htokens, (kind_of_reads_earlyKind (by decide) hreads).2⟩
      rw [htoken] at hk
      cases hk
      exact absurd hfollows.1 (by decide)

/-- The lengths of a code for one letter and the end, of one bit each. -/
def letterLengths : List Nat :=
  List.replicate 65 0 ++ [1] ++ List.replicate 138 0 ++ List.replicate 52 0 ++ [1]

/-- The bits of 11 zeros and more under a code for lengths. -/
def zerosWord (code : List Nat) (extra : Nat) : List Bool := word code 18 ++ lowBits 7 extra

/-- How `letterLengths` are sent, before more lengths. -/
theorem writesLengths_letter {code lengths : List Nat} {w : List Bool} (hone : HasWord code 1)
    (hzeros : HasWord code 18) (h : WritesLengths code letterLengths lengths w) :
    WritesLengths code [] lengths (zerosWord code 54 ++ (word code 1 ++ (zerosWord code 127
      ++ (zerosWord code 41 ++ (word code 1 ++ w))))) := by
  have hlength (sent : List Nat) : WritesRun code sent [1] (word code 1) :=
    .length hone (by decide)
  have hmany (sent : List Nat) {extra : Nat} (hextra : extra < 2 ^ 7) :
      WritesRun code sent (List.replicate (11 + extra) 0) (zerosWord code extra) :=
    .manyZeros hzeros hextra
  have hsent : [] ++ List.replicate (11 + 54) 0 ++ [1] ++ List.replicate (11 + 127) 0
      ++ List.replicate (11 + 41) 0 ++ [1] = letterLengths := rfl
  exact .more (hmany [] (by decide)) (.more (hlength _) (.more (hmany _ (by decide))
    (.more (hmany _ (by decide)) (.more (hlength _) (hsent ▸ h)))))

/-- Lengths that were all sent. -/
theorem writesLengths_all {code sent lengths : List Nat} (h : sent = lengths) :
    WritesLengths code sent lengths [] := h ▸ .done

/-- The letter and the end behind the codes of a block, which is the only one. -/
theorem inflates_letter {rules : Rules} {distances : List Nat} {v : List Bool} {stream : Bytes}
    (hcodes : WritesCodes rules letterLengths distances v)
    (hstream : true :: (lowBits 2 2 ++ v ++ (word letterLengths 65 ++ word letterLengths 256))
      <+: stream.flatMap bitsOfByte) : rules.Inflates stream [65] :=
  ⟨_, .last (.sent hcodes (.literal (.literal (by decide)) (.stop (.stop (by decide))))), hstream⟩

theorem isCode_letterLengths (rules : Rules) : rules.IsCode letterLengths := by
  have hle : ∀ length ∈ letterLengths, length ≤ Code.maxLength := by
    simp [letterLengths, Code.maxLength, or_imp, forall_and, -List.reduceReplicate]
  have hcomplete : Code.isComplete letterLengths = true := by
    simp [Code.isComplete, Code.weight, letterLengths, Code.maxLength, -List.reduceReplicate]
  exact .inl ((Code.isComplete_iff hle).1 hcomplete)

/-- A letter under codes of which that for distances has room for 31. -/
def roomyCodes : Bytes := [5, 222, 129, 0, 0, 0, 0, 0, 144, 54, 255, 83, 40, 17]

/-- The lengths of its code for distances, which is not made use of. -/
def roomyLengths : List Nat := [1] ++ [1] ++ List.replicate 29 0

/-- The code for lengths, as it is sent: one bit for a length of one and one for many zeros. -/
def roomyTriples : List Nat := [0, 0, 1] ++ List.replicate 14 0 ++ [1]

/-- To a reader that goes by the definition of the format, this is a letter. -/
theorem inflates_roomyCodes : Rules.standard.Inflates roomyCodes [65] := by
  have hone : HasWord (orderedLengths roomyTriples) 1 := by decide
  have hzeros : HasWord (orderedLengths roomyTriples) 18 := by decide
  have hlengths : WritesLengths (orderedLengths roomyTriples) [] (letterLengths ++ roomyLengths) _ :=
    writesLengths_letter hone hzeros (.more (.length hone (by decide))
      (.more (.length hone (by decide)) (.more (.manyZeros hzeros (show 18 < _ by decide))
        (writesLengths_all (by simp only [roomyLengths, List.append_assoc])))))
  have hfills : Code.Fills (orderedLengths roomyTriples) :=
    (Code.isComplete_iff (orderedLengths_le (by decide))).1 (by decide)
  have hdistances : Rules.standard.IsCode roomyLengths :=
    .inl ((Code.isComplete_iff (by decide)).1 (by decide))
  exact inflates_letter (.intro (by decide +kernel) (by decide +kernel) (by decide +kernel)
    (by decide) hfills hlengths (isCode_letterLengths _) hdistances) (by decide +kernel)

/-- A letter under codes of which that for distances has one string, of two bits. -/
def loneCodes : Bytes := [5, 192, 129, 0, 0, 0, 0, 128, 32, 182, 252, 165, 90]

/-- The code for lengths, as it is sent: one bit for many zeros, and two bits for a length of one
and for a length of two. -/
def loneTriples : List Nat := [0, 0, 1] ++ List.replicate 12 0 ++ [2, 0, 2]

/-- To a reader that lets the only string of a code be of any length, this is a letter. -/
theorem inflates_loneCodes : Rules.standard.Inflates loneCodes [65] := by
  have hone : HasWord (orderedLengths loneTriples) 1 := by decide
  have htwo : HasWord (orderedLengths loneTriples) 2 := by decide
  have hzeros : HasWord (orderedLengths loneTriples) 18 := by decide
  have hlengths : WritesLengths (orderedLengths loneTriples) [] (letterLengths ++ [2]) _ :=
    writesLengths_letter hone hzeros (.more (.length htwo (by decide)) .done)
  have hfills : Code.Fills (orderedLengths loneTriples) :=
    (Code.isComplete_iff (orderedLengths_le (by decide))).1 (by decide)
  have hdistances : Rules.standard.IsCode [2] := .inr (.inr ⟨2, by decide, rfl⟩)
  exact inflates_letter (.intro (by decide +kernel) (by decide +kernel) (by decide +kernel)
    (by decide) hfills hlengths (isCode_letterLengths _) hdistances) (by decide +kernel)

end Deflate

/-- The reader does not go by the format as it is defined, read as widely as it can be: it makes
zeros of a copy from before the start, which has no data, and it refuses codes for 31 distances and
a code of one string of two bits, both of which are a letter here. -/
theorem decodeRedirected_not_standard :
    (Base64.decodeText? "AwIA" = some Deflate.earlyCopy ∧
        decodeRedirected "AwIA" = .ok [0, 0, 0] ∧
        ¬Rules.standard.Inflates Deflate.earlyCopy [0, 0, 0]) ∧
      (Base64.decodeText? "Bd6BAAAAAACQNv9TKBE=" = some Deflate.roomyCodes ∧
        decodeRedirected "Bd6BAAAAAACQNv9TKBE=" = .error (.invalidRequest "inflate:") ∧
        Rules.standard.Inflates Deflate.roomyCodes [65]) ∧
      Base64.decodeText? "BcCBAAAAAIAgtvylWg==" = some Deflate.loneCodes ∧
        decodeRedirected "BcCBAAAAAIAgtvylWg==" = .error (.invalidRequest "inflate:") ∧
        Rules.standard.Inflates Deflate.loneCodes [65] :=
  ⟨⟨by decide +kernel, by decide +kernel, Deflate.not_inflates_earlyCopy _⟩,
    ⟨by decide +kernel, by decide +kernel, Deflate.inflates_roomyCodes⟩, by decide +kernel,
    by decide +kernel, Deflate.inflates_loneCodes⟩

/-! ## What is sent is what is received -/

/-- A redirected text is received as it was sent, if its compressed form has that text. -/
theorem decodeRedirected_encodeRedirectedWith {compress : Bytes → Bytes} {request : String}
    (h : Rules.common.Inflates (compress (Bytes.ofString request)) (Bytes.ofString request)) :
    decodeRedirected (encodeRedirectedWith compress request)
      = if (Bytes.ofString request).length ≤ maxInflated then .ok (Bytes.ofString request)
        else .error (.invalidRequest "inflated request is too large") := by
  have hbytes := Base64.decodeText?_encode (compress (Bytes.ofString request))
  have hinflates := h.mono Rules.followed_extends_common
  rw [encodeRedirectedWith]
  split
  · rename_i hle
    exact (decodeRedirected_eq_ok_iff hbytes).2 ⟨hinflates, hle⟩
  · rename_i hle
    exact decodeRedirected_of_lt hbytes hinflates (Nat.lt_of_not_le hle)

namespace AuthnRequestDraft

/-- **A redirected request is received as it was built**, however it was compressed: whatever was
said of it, if it has a text then it can be sent, and what is received is that text, unless that is
past the bound. -/
theorem decodeRedirected_toRedirectWith {compress : Bytes → Bytes}
    (hcompress : ∀ data, Rules.common.Inflates (compress data) data) (edits : List AuthnRequestEdit)
    {xml : String} (h : (ofEdits edits).toDocument = .ok xml) :
    ∃ text, (ofEdits edits).toRedirectWith compress = .ok text ∧
      decodeRedirected text
        = if (Bytes.ofString xml).length ≤ maxInflated then .ok (Bytes.ofString xml)
          else .error (.invalidRequest "inflated request is too large") := by
  refine ⟨encodeRedirectedWith compress xml, ?_,
    decodeRedirected_encodeRedirectedWith (hcompress _)⟩
  rw [toRedirectWith, h]
  rfl

/-- What is said of a request for the user `u&1`. -/
def probeEdits : List AuthnRequestEdit :=
  [.subject "u&1", .nameFormat "", .id "_r0", .issueInstant ⟨1893459600000000000, 0, by decide⟩,
    .destination "https://idp.example/sso", .consumerUrl "https://sp.example/acs",
    .issuer "https://sp.example", .id "_r1", .allowCreate false]

theorem decodeRedirected_toRedirectWith_probe :
    (∀ data, Rules.common.Inflates (Deflate.deflate data) data) ∧
      ∃ xml text, (ofEdits probeEdits).toDocument = .ok xml ∧
        (ofEdits probeEdits).toRedirect = .ok text ∧
        decodeRedirected text
          = if (Bytes.ofString xml).length ≤ maxInflated then .ok (Bytes.ofString xml)
            else .error (.invalidRequest "inflated request is too large") := by
  have hdeflate := Deflate.inflates_deflate Rules.common
  obtain ⟨xml, hxml⟩ : ∃ xml, (ofEdits probeEdits).toDocument = .ok xml := ⟨_, rfl⟩
  obtain ⟨text, htext, hdecode⟩ := decodeRedirected_toRedirectWith hdeflate probeEdits hxml
  exact ⟨hdeflate, xml, text, hxml, htext, hdecode⟩

end AuthnRequestDraft

end WebSso
