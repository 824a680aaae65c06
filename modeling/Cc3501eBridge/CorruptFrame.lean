import Cc3501eBridge.Lib.CrcErrors
import Cc3501eBridge.RequestGate

/-!
# Corrupted requests

What the CRC of the request gate is for: a frame that was damaged on the wire does not reach
`protocol_dispatch`.  The damage may hit any bytes, those of the header included, which decide what
the gate checks: a length field that no longer agrees with the bytes received, and a frame that
passes for the unprotected `GET_VERSION`, are cases of their own.  The rest is `Lib.CrcErrors`.
-/

namespace Cc3501eBridge

variable {η : Type}

open Crc16

/-- A request frame with a CRC: the trailer is the code of the bytes before it, and the declared
length is the number of bytes behind the header. -/
structure CrcFrame (f covered : List UInt8) : Prop where
  header : headerBytes ≤ covered.length
  length : headerBytes + (declaredLen f).toNat = f.length
  trailer : f = covered ++ frameCrc covered

namespace CrcFrame

variable {f covered : List UInt8}

theorem length_eq (h : CrcFrame f covered) : f.length = covered.length + crcBytes := by
  rw [h.trailer, List.length_append]
  rfl

end CrcFrame

/-- The errors the code is sure to detect, in a frame whose first `n` bytes are covered: an odd
number of bits, or some bits within sixteen consecutive ones of the covered bytes. -/
def Detectable (n : Nat) (flipped : List Bool) : Prop :=
  Odd (flipped.count true) ∨
    true ∈ flipped ∧ ∃ k, ∀ i, flipped[i]? = some true → k ≤ i ∧ i < k + 16 ∧ i < 8 * n

section

variable {E : Env η} {fw : Fw η} {f f' covered covered' : List UInt8} {frame : Buf} {replyCap : Nat}

/-- The gate of the wire with CRC turns a frame away, whatever stands behind it, unless the frame has
no payload or ends with its code. -/
theorem requestCrc_rejected (h4 : f.length ≠ headerBytes)
    (htrailer : ∀ covered, f ≠ covered ++ frameCrc covered) :
    ∃ m, ∀ D : Dispatcher η,
      requestCrc E D fw f frame replyCap = rejected { fw with crc := m } frame := by
  by_cases hlen : headerBytes ≤ f.length
  swap
  · exact ⟨fw.crc, fun D => by simp only [requestCrc, if_neg hlen]⟩
  by_cases hdecl : headerBytes + (declaredLen f).toNat = f.length
  swap
  · exact ⟨fw.crc, fun D => by simp only [requestCrc, if_pos hlen, if_neg hdecl]⟩
  have hv : ¬ (cmdEcho f = E.hdr.opcode .getVersion ∧ declaredLen f = 0) := by
    rintro ⟨-, h0⟩
    rw [h0] at hdecl
    exact h4 hdecl.symm
  by_cases h2 : headerBytes + crcBytes ≤ f.length
  · have h2' : headerBytes + 2 ≤ f.length := h2
    have hn : f.length = headerBytes + (f.length - headerBytes - 2) + 2 := by omega
    refine ⟨fw.crc.ensure, fun D => ?_⟩
    rw [requestCrc_of_payload hlen hdecl hv h2 hn, if_neg (htrailer _)]
  · have hlt : ¬ UInt16.ofNat crcBytes ≤ declaredLen f := by
      rw [UInt16.le_iff_toNat_le]
      change ¬ crcBytes ≤ _
      omega
    refine ⟨fw.crc, fun D => ?_⟩
    simp only [requestCrc, if_pos hlen, if_pos hdecl, if_neg hv, if_neg hlt]

/-- Two frames that end with their codes do not differ by a detectable error. -/
theorem not_detectable (hlen : covered'.length = covered.length) :
    ¬ Detectable covered.length
      (flips (covered ++ frameCrc covered) (covered' ++ frameCrc covered')) := by
  rintro (hodd | ⟨hmem, k, hk⟩)
  · exact codeword_flips_even hlen.symm hodd
  · rw [flips_append hlen.symm] at hmem hk
    have hcov : (flips covered covered').length = 8 * covered.length := by simp [flips, hlen]
    -- nothing is flipped in the trailer, so the two codes agree
    have htail : true ∉ flips (frameCrc covered) (frameCrc covered') := by
      intro ht
      obtain ⟨j, hj⟩ := List.mem_iff_getElem?.mp ht
      have := (hk (8 * covered.length + j) (by
        rw [List.getElem?_append_right (by omega), hcov, Nat.add_sub_cancel_left]
        exact hj)).2.2
      omega
    have hhead : true ∈ flips covered covered' := (List.mem_append.mp hmem).resolve_right htail
    have hcode : update initReg covered = update initReg covered' :=
      le16_injective (eq_of_not_mem_flips rfl htail)
    have hburst : ∀ i, (flips covered covered')[i]? = some true → k ≤ i ∧ i < k + 16 := by
      intro i hi
      have hlt : i < (flips covered covered').length := (List.getElem?_eq_some_iff.mp hi).1
      have := hk i (by rw [List.getElem?_append_left hlt]; exact hi)
      exact ⟨this.1, this.2.1⟩
    exact update_ne_of_burst hlen.symm hhead hburst hcode

/-- On the wire with CRC a request frame in which an odd number of bits, or some bits within sixteen
consecutive ones before the trailer, were flipped on the way is turned away: `protocol_build_reply`
answers `ERR_PROTOCOL` without a dispatch, in every state and whatever stands behind the gate. -/
theorem corrupted_request_rejected (hb : E.build.wireCrc = true) (hvalid : CrcFrame f covered)
    (hlen : f'.length = f.length) (herr : Detectable covered.length (flips f f')) :
    ∃ m, ∀ D : Dispatcher η,
      requestOutcome E D fw f' frame replyCap = rejected { fw with crc := m } frame := by
  have hf := hvalid.length_eq
  have h4 : f'.length ≠ headerBytes := by
    have := hvalid.header
    have : crcBytes = 2 := rfl
    omega
  simp only [requestOutcome, if_pos hb]
  apply requestCrc_rejected h4
  intro covered' heq
  have hcov : covered'.length = covered.length := by
    have hf' := congrArg List.length heq
    rw [List.length_append] at hf'
    have : (frameCrc covered').length = crcBytes := rfl
    omega
  rw [hvalid.trailer, heq] at herr
  exact not_detectable hcov herr

end

/-- A `PING`, once with a bit of its opcode flipped and once with four bits of its header, is not
served. -/
theorem corrupted_request_rejected_ping :
    CrcFrame [0x00, 0x08, 2, 0, 0x03, 0x4B] [0x00, 0x08, 2, 0] ∧
      (∃ m, ∀ D : Dispatcher Unit,
        requestOutcome .reference D (.boot ()) [0x01, 0x08, 2, 0, 0x03, 0x4B] .zero frameMaxBytes =
          rejected { Fw.boot () with crc := m } .zero) ∧
      ∃ m, ∀ D : Dispatcher Unit,
        requestOutcome .reference D (.boot ()) [0x01, 0x78, 2, 0, 0x03, 0x4B] .zero frameMaxBytes =
          rejected { Fw.boot () with crc := m } .zero := by
  have hvalid : CrcFrame [0x00, 0x08, 2, 0, 0x03, 0x4B] [0x00, 0x08, 2, 0] :=
    ⟨by decide, by decide, by decide +kernel⟩
  have hodd : Detectable 4
      (flips [0x00, 0x08, 2, 0, 0x03, 0x4B] [0x01, 0x08, 2, 0, 0x03, 0x4B]) := .inl (by decide)
  have hburst : Detectable 4
      (flips [0x00, 0x08, 2, 0, 0x03, 0x4B] [0x01, 0x78, 2, 0, 0x03, 0x4B]) := by
    refine .inr ⟨by decide, 7, fun i hi => ?_⟩
    have hlt : i < 48 := (List.getElem?_eq_some_iff.mp hi).1
    have hall : ∀ j : Fin 48, (flips [0x00, 0x08, 2, 0, 0x03, 0x4B]
        [0x01, 0x78, 2, 0, 0x03, 0x4B])[j.val]? = some true → 7 ≤ j.val ∧ j.val < 23 ∧ j.val < 32 := by
      decide
    exact hall ⟨i, hlt⟩ hi
  exact ⟨hvalid, corrupted_request_rejected rfl hvalid rfl hodd,
    corrupted_request_rejected rfl hvalid rfl hburst⟩

end Cc3501eBridge
