import QsTie.Benchmark.Analysis
import QsTie.Lib.Rounding
import Mathlib.Data.List.Pairwise
import Mathlib.Data.Rat.Defs

/-!
# The latency decomposition of `analyze_telemetry.py`

The columns of a row are aggregated one by one, so its time stamps may be those of
different attempts.  They still telescope: end-to-end latency is crypto path plus
network transit plus the intake at Gateway A plus the ingestion at Gateway B, and
the last two are never negative.  The receiver's part of the crypto path belongs to
one record, the latest, when the verifications of a transaction do not overlap.

Time stamps are `int64` nanoseconds, the latencies in milliseconds are floats.  Each
of these has a relative error of its own, and the decomposition is exact up to these
errors: `0.2` and `0.1` add up to more than `0.3` (`parts_exceed_endToEnd`).
-/

namespace QsTie.Benchmark

open QsTie.Lib

variable {κ : Type}

/-! ### The columns -/

/-- The difference of two `int64` values. -/
def subInt64 (t t' : ℤ) : ℤ := (t - t').bmod (2 ^ 64)

/-- `d / NS_TO_MS`: the integer becomes a float, and so does the quotient.  Neither comes near the
    largest float. -/
def quotientMs (d : ℤ) : ℚ := binary64.nearest (binary64.nearest d / 1000000)

/-- `(t - t') / NS_TO_MS`; a missing time stamp gives a missing latency. -/
def differenceMs : Option ℤ → Option ℤ → Option ℚ
  | some t, some t' => some (quotientMs (subInt64 t t'))
  | _, _ => none

def addMs : Option ℚ → Option ℚ → Option ℚ
  | some x, some y => some (binary64.nearest (x + y))
  | _, _ => none

namespace Row

def cryptoA (row : Row κ ℤ) : Option ℚ := differenceMs row.tSigned row.tExtracted

def cryptoB (row : Row κ ℤ) : Option ℚ := differenceMs row.tVerifiedB row.tReceivedB

def cryptoPathMs (row : Row κ ℤ) : Option ℚ := addMs row.cryptoA row.cryptoB

def networkTransitMs (row : Row κ ℤ) : Option ℚ := differenceMs row.tReceivedB row.tSigned

def endToEndMs (row : Row κ ℤ) : Option ℚ := differenceMs row.tIngestedB row.tReceived

end Row

/-! ### What is rounded -/

/-- The latency without rounding. -/
def exactMs (d : ℤ) : ℚ := d / 1000000

/-- One rounding, far above the subnormal numbers. -/
theorem within_round {q : ℚ} (hq : q = 0 ∨ 1 / 2 ^ 30 ≤ |q|) :
    Within (1 / 2 ^ 53) q (binary64.nearest q) := by
  have hnormal : q = 0 ∨
      (2 : ℚ) ^ (binary64.minExp + binary64.precision - 1) ≤ |q| := by
    refine hq.imp_right fun hle => le_trans ?_ hle
    have hexp : (2 : ℚ) ^ (binary64.minExp + binary64.precision - 1) ≤ 2 ^ (-30 : ℤ) :=
      zpow_le_zpow_right₀ one_le_two (by decide)
    exact hexp.trans (by norm_num)
  apply (FloatFormat.within_nearest hnormal).mono
  have hprecision : (2 : ℚ) ^ (-binary64.precision : ℤ) = 2 ^ (-53 : ℤ) := rfl
  rw [hprecision]
  norm_num

theorem abs_exactMs {d : ℤ} (hd : d ≠ 0) : 1 / 1000000 ≤ |exactMs d| := by
  have hone : (1 : ℚ) ≤ |(d : ℚ)| := by exact_mod_cast Int.one_le_abs hd
  rw [exactMs, abs_div, abs_of_pos (by norm_num : (0 : ℚ) < 1000000)]
  exact div_le_div_of_nonneg_right hone (by norm_num)

/-- A column that is one difference is rounded twice. -/
theorem within_quotientMs (d : ℤ) :
    Within (1 / 2 ^ 52 + 1 / 2 ^ 106) (exactMs d) (quotientMs d) := by
  by_cases hd : d = 0
  · simp [hd, quotientMs, exactMs, Within]
  · have hlarge := abs_exactMs hd
    have hone : (1 : ℚ) ≤ |(d : ℚ)| := by exact_mod_cast Int.one_le_abs hd
    have hfloat : Within (1 / 2 ^ 53) (exactMs d) (binary64.nearest d / 1000000) :=
      (within_round (Or.inr (le_trans (by norm_num) hone))).div 1000000
    have hquotient : 1 / 2 ^ 30 ≤ |binary64.nearest d / 1000000| := by
      have hle := hfloat.le_abs
      linarith
    apply (hfloat.trans (within_round (Or.inr hquotient)) (by norm_num)).mono
    norm_num

theorem exactMs_nonneg {d : ℤ} (hd : 0 ≤ d) : 0 ≤ exactMs d := by
  have hcast : (0 : ℚ) ≤ d := by exact_mod_cast hd
  exact div_nonneg hcast (by norm_num)

/-- The sum of two of them, neither of them negative, is rounded once more. -/
theorem within_addMs {d d' : ℤ} (hd : 0 ≤ d) (hd' : 0 ≤ d') :
    Within (1 / 2 ^ 51) (exactMs (d + d')) (binary64.nearest (quotientMs d + quotientMs d')) := by
  have hsum : exactMs (d + d') = exactMs d + exactMs d' := by
    simp only [exactMs, Int.cast_add, add_div]
  have hadded : Within (1 / 2 ^ 52 + 1 / 2 ^ 106) (exactMs (d + d'))
      (quotientMs d + quotientMs d') := by
    rw [hsum]
    exact (within_quotientMs d).add (within_quotientMs d') (exactMs_nonneg hd)
      (exactMs_nonneg hd')
  have hsize : quotientMs d + quotientMs d' = 0 ∨ 1 / 2 ^ 30 ≤ |quotientMs d + quotientMs d'| := by
    by_cases hzero : d + d' = 0
    · left
      obtain rfl : d = 0 := by omega
      obtain rfl : d' = 0 := by omega
      simp [quotientMs]
    · right
      have hle := hadded.le_abs
      have hlarge := abs_exactMs hzero
      linarith
  apply (hadded.trans (within_round hsize) (by norm_num)).mono
  norm_num

/-! ### Stamps in order -/

/-- Three stamps that are there, in order, as `time.time_ns` gives them. -/
structure InOrder (a b c : Option ℤ) (t u v : ℤ) : Prop where
  first : a = some t
  second : b = some u
  third : c = some v
  start : 0 ≤ t
  rising : t ≤ u
  rising' : u ≤ v
  bound : v < 2 ^ 63

def RecordA.Ordered (record : RecordA κ ℤ) (received extracted signed : ℤ) : Prop :=
  InOrder record.tReceived record.tExtracted record.tSigned received extracted signed

def RecordB.Ordered (record : RecordB κ ℤ) (received verified ingested : ℤ) : Prop :=
  InOrder record.tReceivedB record.tVerifiedB record.tIngestedB received verified ingested

/-- Stamps of this range have no difference that wraps around. -/
theorem subInt64_eq {t t' : ℤ} (ht : 0 ≤ t) (hlt : t < 2 ^ 63) (ht' : 0 ≤ t') (hlt' : t' < 2 ^ 63) :
    subInt64 t t' = t - t' := by
  apply Int.bmod_eq_of_le <;> omega

/-- The verification of the first record ends before the second one is received. -/
def RecordB.Before (record record' : RecordB κ ℤ) : Prop :=
  ∃ verified received, record.tVerifiedB = some verified ∧ record'.tReceivedB = some received ∧
    verified < received

/-- The intervals `[t_received_b, t_verified_b]` do not meet. -/
def RecordB.Disjoint (record record' : RecordB κ ℤ) : Prop :=
  record.Before record' ∨ record'.Before record

instance : Std.Symm (@RecordB.Disjoint κ) := ⟨fun _ _ => Or.symm⟩

/-- The record an aggregated value comes from. -/
theorem IsBest.exists_record {α τ : Type} {better : τ → τ → Prop} {group : List α}
    {f : α → Option τ} {result : Option τ} (h : IsBest better (group.map f) result)
    (hne : ∃ record ∈ group, ∃ t, f record = some t) :
    ∃ record ∈ group, ∃ t, result = some t ∧ f record = some t ∧
      ∀ record' ∈ group, ∀ t', f record' = some t' → better t t' := by
  cases result with
  | none =>
    obtain ⟨record, hrecord, t, ht⟩ := hne
    exact absurd (List.mem_map.mpr ⟨record, hrecord, ht⟩) (h.2 rfl t)
  | some t =>
    obtain ⟨hmem, hbest⟩ := h.1 t rfl
    obtain ⟨record, hrecord, ht⟩ := List.mem_map.mp hmem
    refine ⟨record, hrecord, t, rfl, ht, ?_⟩
    intro record' hrecord' t' ht'
    exact hbest t' (List.mem_map.mpr ⟨record', hrecord', ht'⟩)

/-- Columns of a group, the last two aggregated with `max`: whichever records the stamps come
    from, they are in order again. -/
theorem InOrder.aggregate {α : Type} {better : ℤ → ℤ → Prop} {group : List α}
    {f g h : α → Option ℤ} {a b c : Option ℤ}
    (hall : ∀ record ∈ group, ∃ t u v, InOrder (f record) (g record) (h record) t u v)
    {record : α} (hrecord : record ∈ group) (ha : IsBest better (group.map f) a)
    (hb : IsBest (· ≥ ·) (group.map g) b) (hc : IsBest (· ≥ ·) (group.map h) c) :
    ∃ t u v, InOrder a b c t u v := by
  obtain ⟨t₀, u₀, v₀, horder⟩ := hall record hrecord
  obtain ⟨r, hr, t, hta, hrt, -⟩ := ha.exists_record ⟨record, hrecord, t₀, horder.first⟩
  obtain ⟨r', hr', u, hub, hru, hgreatest⟩ :=
    hb.exists_record ⟨record, hrecord, u₀, horder.second⟩
  obtain ⟨r'', hr'', v, hvc, hrv, hgreatest'⟩ :=
    hc.exists_record ⟨record, hrecord, v₀, horder.third⟩
  obtain ⟨t₁, u₁, _, horder₁⟩ := hall r hr
  obtain ⟨_, u₂, v₂, horder₂⟩ := hall r' hr'
  obtain ⟨_, _, v₃, horder₃⟩ := hall r'' hr''
  obtain rfl : t₁ = t := Option.some.inj (horder₁.first.symm.trans hrt)
  obtain rfl : u₂ = u := Option.some.inj (horder₂.second.symm.trans hru)
  obtain rfl : v₃ = v := Option.some.inj (horder₃.third.symm.trans hrv)
  refine ⟨t₁, u₂, v₃, hta, hub, hvc, horder₁.start, ?_, ?_, horder₃.bound⟩
  · calc t₁ ≤ u₁ := horder₁.rising
      _ ≤ u₂ := hgreatest r hr u₁ horder₁.second
  · calc u₂ ≤ v₂ := horder₂.rising'
      _ ≤ v₃ := hgreatest' r' hr' v₂ horder₂.third

/-! ### Groups -/

section Groups

variable [DecidableEq κ] {pd : Pandas κ ℤ}

theorem exists_mem_group {α : Type} {f : α → Option κ} {records : List α} {id : κ}
    (hid : some id ∈ records.map f) :
    ∃ record, record ∈ records.filter fun record => f record = some id := by
  obtain ⟨record, hrecord, heq⟩ := List.mem_map.mp hid
  exact ⟨record, List.mem_filter.mpr ⟨hrecord, by simpa using heq⟩⟩

/-- The aggregated time stamps of Gateway A: the intake is not negative. -/
theorem groupA_stamps (hpd : pd.Lawful) {dfA : List (RecordA κ ℤ)} {id : κ}
    (hordered : ∀ record ∈ dfA, ∃ received extracted signed,
      record.Ordered received extracted signed)
    (hid : some id ∈ dfA.map (·.transactionId)) :
    ∃ received extracted signed, InOrder (groupA pd dfA id).tReceived
      (groupA pd dfA id).tExtracted (groupA pd dfA id).tSigned received extracted signed := by
  obtain ⟨record, hrecord⟩ := exists_mem_group hid
  apply InOrder.aggregate _ hrecord (hpd.aggMin _) (hpd.aggMax _) (hpd.aggMax _)
  intro record hmem
  exact hordered record (List.mem_of_mem_filter hmem)

/-- The aggregated time stamps of Gateway B: the ingestion is not negative. -/
theorem groupB_stamps (hpd : pd.Lawful) {dfB : List (RecordB κ ℤ)} {id : κ}
    (hordered : ∀ record ∈ dfB, ∃ received verified ingested,
      record.Ordered received verified ingested)
    (hid : some id ∈ dfB.map (·.transactionId)) :
    ∃ received verified ingested, InOrder (groupB pd dfB id).tReceivedB
      (groupB pd dfB id).tVerifiedB (groupB pd dfB id).tIngestedB received verified ingested := by
  obtain ⟨record, hrecord⟩ := exists_mem_group hid
  apply InOrder.aggregate _ hrecord (hpd.aggMax _) (hpd.aggMax _) (hpd.aggMax _)
  intro record hmem
  exact hordered record (List.mem_of_mem_filter hmem)

/-- With disjoint verifications both aggregated time stamps are those of the record that was
    received last, and every other record was verified before. -/
theorem groupB_latest (hpd : pd.Lawful) {dfB : List (RecordB κ ℤ)} {id : κ}
    (hordered : ∀ record ∈ dfB, ∃ received verified ingested,
      record.Ordered received verified ingested)
    (hid : some id ∈ dfB.map (·.transactionId))
    (hdisjoint : (dfB.filter fun record => record.transactionId = some id).Pairwise
      RecordB.Disjoint) :
    ∃ latest ∈ dfB.filter fun record => record.transactionId = some id,
      (∀ record ∈ dfB.filter fun record => record.transactionId = some id,
        record = latest ∨ record.Before latest) ∧
      (groupB pd dfB id).tReceivedB = latest.tReceivedB ∧
      (groupB pd dfB id).tVerifiedB = latest.tVerifiedB := by
  obtain ⟨record, hrecord⟩ := exists_mem_group hid
  obtain ⟨r, v, i, hrecordOrdered⟩ := hordered record (List.mem_of_mem_filter hrecord)
  obtain ⟨latest, hlatest, received, hreceived, hlatestReceived, hgreatest⟩ :=
    (hpd.aggMax _).exists_record ⟨record, hrecord, r, hrecordOrdered.first⟩
  obtain ⟨last, hlast, verified, hverified, hlastVerified, hgreatest'⟩ :=
    (hpd.aggMax _).exists_record ⟨record, hrecord, v, hrecordOrdered.second⟩
  obtain ⟨r', v', _, hlatestOrdered⟩ := hordered latest (List.mem_of_mem_filter hlatest)
  obtain rfl : r' = received :=
    Option.some.inj (hlatestOrdered.first.symm.trans hlatestReceived)
  have hbefore : ∀ record ∈ dfB.filter fun record => record.transactionId = some id,
      record = latest ∨ record.Before latest := by
    intro other hother
    by_cases hsame : other = latest
    · exact Or.inl hsame
    · right
      rcases hdisjoint.forall hother hlatest hsame with hearlier | ⟨v'', r'', hv'', hr'', hlt⟩
      · exact hearlier
      · -- no record is received after the latest
        have hle : r'' ≤ r' := hgreatest other hother r'' hr''
        have hv : v'' = v' := Option.some.inj (hv''.symm.trans hlatestOrdered.second)
        have hverification := hlatestOrdered.rising
        omega
  refine ⟨latest, hlatest, hbefore, hreceived.trans hlatestReceived.symm, ?_⟩
  rcases hbefore last hlast with rfl | ⟨v'', r'', hv'', hr'', hlt⟩
  · exact hverified.trans hlastVerified.symm
  · -- what is verified before the latest is received is not verified last
    have hle : v' ≤ verified := hgreatest' latest hlatest v' hlatestOrdered.second
    have hv : v'' = verified := Option.some.inj (hv''.symm.trans hlastVerified)
    have hr : r'' = r' := Option.some.inj (hr''.symm.trans hlatestOrdered.first)
    have hverification := hlatestOrdered.rising
    omega

end Groups

/-! ### The decomposition -/

/-- What the rounding of the three latencies can amount to. -/
def slackMs (crypto network endToEnd : ℤ) : ℚ :=
  1 / 2 ^ 51 * (|exactMs endToEnd| + |exactMs crypto| + |exactMs network|)

/-- The latencies of the row are those of its stamps up to rounding, and add up as these do. -/
structure Row.Decomposes (row : Row κ ℤ)
    (received extracted signed receivedB verified ingested : ℤ) (crypto network endToEnd : ℚ) :
    Prop where
  stampsA : InOrder row.tReceived row.tExtracted row.tSigned received extracted signed
  stampsB : InOrder row.tReceivedB row.tVerifiedB row.tIngestedB receivedB verified ingested
  cryptoPath : row.cryptoPathMs = some crypto
  networkTransit : row.networkTransitMs = some network
  endToEndLatency : row.endToEndMs = some endToEnd
  cryptoNear :
    Within (1 / 2 ^ 51) (exactMs (signed - extracted + (verified - receivedB))) crypto
  networkNear : Within (1 / 2 ^ 51) (exactMs (receivedB - signed)) network
  endToEndNear : Within (1 / 2 ^ 51) (exactMs (ingested - received)) endToEnd
  exact : exactMs (ingested - received) =
    exactMs (signed - extracted + (verified - receivedB)) + exactMs (receivedB - signed) +
      exactMs (extracted - received) + exactMs (ingested - verified)
  intake : 0 ≤ extracted - received
  ingestion : 0 ≤ ingested - verified
  sum : abs (endToEnd - (crypto + network + exactMs (extracted - received) +
      exactMs (ingested - verified))) ≤
    slackMs (signed - extracted + (verified - receivedB)) (receivedB - signed)
      (ingested - received)
  atLeast : crypto + network ≤ endToEnd +
    slackMs (signed - extracted + (verified - receivedB)) (receivedB - signed)
      (ingested - received)

/-- The exact latencies telescope. -/
theorem exactMs_telescopes (received extracted signed receivedB verified ingested : ℤ) :
    exactMs (ingested - received) =
      exactMs (signed - extracted + (verified - receivedB)) + exactMs (receivedB - signed) +
        exactMs (extracted - received) + exactMs (ingested - verified) := by
  simp only [exactMs]
  push_cast
  ring

section Stamps

variable {row : Row κ ℤ} {received extracted signed receivedB verified ingested : ℤ}
  (hA : InOrder row.tReceived row.tExtracted row.tSigned received extracted signed)
  (hB : InOrder row.tReceivedB row.tVerifiedB row.tIngestedB receivedB verified ingested)
include hA hB

/-- No difference of the columns wraps around. -/
theorem Row.columns_of_stamps :
    row.cryptoPathMs = some (binary64.nearest
      (quotientMs (signed - extracted) + quotientMs (verified - receivedB))) ∧
    row.networkTransitMs = some (quotientMs (receivedB - signed)) ∧
    row.endToEndMs = some (quotientMs (ingested - received)) := by
  obtain ⟨hreceived, hextracted, hsigned, hstart, hintake, hsigning, hbound⟩ := hA
  obtain ⟨hreceivedB, hverified, hingested, hstartB, hverification, hingestion, hboundB⟩ := hB
  have hdifference : ∀ {t t' : ℤ}, 0 ≤ t → t < 2 ^ 63 → 0 ≤ t' → t' < 2 ^ 63 →
      differenceMs (some t) (some t') = some (quotientMs (t - t')) := by
    intro t t' h₁ h₂ h₃ h₄
    rw [differenceMs, subInt64_eq h₁ h₂ h₃ h₄]
  refine ⟨?_, ?_, ?_⟩
  · rw [Row.cryptoPathMs, Row.cryptoA, Row.cryptoB, hsigned, hextracted, hverified, hreceivedB,
      hdifference (by omega) (by omega) (by omega) (by omega),
      hdifference (by omega) (by omega) (by omega) (by omega)]
    rfl
  · rw [Row.networkTransitMs, hreceivedB, hsigned]
    exact hdifference (by omega) (by omega) (by omega) (by omega)
  · rw [Row.endToEndMs, hingested, hreceived]
    exact hdifference (by omega) (by omega) (by omega) (by omega)

theorem Row.decomposes_of_stamps :
    ∃ crypto network endToEnd, row.Decomposes received extracted signed receivedB verified ingested
      crypto network endToEnd := by
  obtain ⟨hcrypto, hnetwork, hendToEnd⟩ := Row.columns_of_stamps hA hB
  have hsigning := hA.rising'
  have hverification := hB.rising
  have hintake := hA.rising
  have hingestion := hB.rising'
  have hcryptoNear := @within_addMs (signed - extracted) (verified - receivedB) (by omega)
    (by omega)
  have hnetworkNear := (within_quotientMs (receivedB - signed)).mono
    (by norm_num : (1 : ℚ) / 2 ^ 52 + 1 / 2 ^ 106 ≤ 1 / 2 ^ 51)
  have hendToEndNear := (within_quotientMs (ingested - received)).mono
    (by norm_num : (1 : ℚ) / 2 ^ 52 + 1 / 2 ^ 106 ≤ 1 / 2 ^ 51)
  have hexact := exactMs_telescopes received extracted signed receivedB verified ingested
  have hleft := @exactMs_nonneg (extracted - received) (by omega)
  have hright := @exactMs_nonneg (ingested - verified) (by omega)
  -- the three errors add up to the slack
  have hsum : abs (quotientMs (ingested - received) - (binary64.nearest
      (quotientMs (signed - extracted) + quotientMs (verified - receivedB)) +
        quotientMs (receivedB - signed) + exactMs (extracted - received) +
          exactMs (ingested - verified))) ≤
      slackMs (signed - extracted + (verified - receivedB)) (receivedB - signed)
        (ingested - received) := by
    unfold Within at hcryptoNear hnetworkNear hendToEndNear
    rw [abs_le] at hcryptoNear hnetworkNear hendToEndNear ⊢
    unfold slackMs
    constructor <;> linarith [hcryptoNear.1, hcryptoNear.2, hnetworkNear.1, hnetworkNear.2,
      hendToEndNear.1, hendToEndNear.2]
  refine ⟨_, _, _, hA, hB, hcrypto, hnetwork, hendToEnd, hcryptoNear, hnetworkNear, hendToEndNear,
    hexact, by omega, by omega, hsum, ?_⟩
  rw [abs_le] at hsum
  linarith [hsum.1]

end Stamps

/-- **The latency decomposition adds up, up to rounding.**  Whatever the records of both
    gateways, each in the order of its own time stamps: there is one row for each transaction
    of both sides, its latencies add up to within the errors of the floats that they are, and
    with disjoint verifications the receiver's part is the verification time of the latest
    record. -/
theorem latency_decomposition [DecidableEq κ] (pd : Pandas κ ℤ) (hpd : pd.Lawful)
    (dfA : List (RecordA κ ℤ)) (dfB : List (RecordB κ ℤ))
    (hA : ∀ record ∈ dfA, ∃ received extracted signed, record.Ordered received extracted signed)
    (hB : ∀ record ∈ dfB, ∃ received verified ingested,
      record.Ordered received verified ingested) :
    ((merged pd dfA dfB).map (·.transactionId)).Nodup ∧
    (∀ id, id ∈ (merged pd dfA dfB).map (·.transactionId) ↔
      (∃ record ∈ dfA, record.transactionId = some id) ∧
        ∃ record ∈ dfB, record.transactionId = some id) ∧
    ∀ row ∈ merged pd dfA dfB,
      (∃ received extracted signed receivedB verified ingested crypto network endToEnd,
        row.Decomposes received extracted signed receivedB verified ingested crypto network
          endToEnd) ∧
      ((dfB.filter fun record => record.transactionId = some row.transactionId).Pairwise
          RecordB.Disjoint →
        ∃ latest ∈ dfB.filter fun record => record.transactionId = some row.transactionId,
          (∀ record ∈ dfB.filter fun record => record.transactionId = some row.transactionId,
            record = latest ∨ record.Before latest) ∧
          row.cryptoB = differenceMs latest.tVerifiedB latest.tReceivedB) := by
  refine ⟨nodup_ids_merged hpd, ?_, ?_⟩
  · intro id
    rw [mem_ids_merged hpd, List.mem_map, List.mem_map]
  · intro row hrow
    obtain ⟨hidA, hidB, heq⟩ := exists_groups_of_mem hpd hrow
    constructor
    · obtain ⟨received, extracted, signed, hstampsA⟩ := groupA_stamps hpd hA hidA
      obtain ⟨receivedB, verified, ingested, hstampsB⟩ := groupB_stamps hpd hB hidB
      obtain ⟨crypto, network, endToEnd, hdecomposes⟩ :=
        @Row.decomposes_of_stamps κ row received extracted signed receivedB verified ingested
          (by rw [heq]; exact hstampsA) (by rw [heq]; exact hstampsB)
      exact ⟨received, extracted, signed, receivedB, verified, ingested, crypto, network, endToEnd,
        hdecomposes⟩
    · intro hdisjoint
      obtain ⟨latest, hlatest, hbefore, hreceived, hverified⟩ :=
        groupB_latest hpd hB hidB hdisjoint
      refine ⟨latest, hlatest, hbefore, ?_⟩
      rw [Row.cryptoB, heq]
      simp only [joinedRow]
      rw [hreceived, hverified]

namespace Sample

/-- A transaction that was signed twice and delivered twice. -/
def retriedA : List (RecordA String ℤ) :=
  [⟨some "tx-1", some 100, some 200, some 300, none⟩,
   ⟨some "tx-1", some 100, some 700, some 900, some 2000⟩]

def retriedB : List (RecordB String ℤ) :=
  [⟨some "tx-1", some 400, some 500, some 600⟩, ⟨some "tx-1", some 1000, some 1200, some 1500⟩]

/-- The row of one record on each side. -/
def single (a : RecordA String ℤ) (b : RecordB String ℤ) : Row String ℤ where
  transactionId := "tx-1"
  tReceived := a.tReceived
  tExtracted := a.tExtracted
  tSigned := a.tSigned
  tAcked := a.tAcked
  tReceivedB := b.tReceivedB
  tVerifiedB := b.tVerifiedB
  tIngestedB := b.tIngestedB

/-- A tenth of a millisecond for each of signing, transit and verification, and no intake or
    ingestion. -/
def shortA : RecordA String ℤ := ⟨some "tx-1", some 0, some 0, some 100000, none⟩

def shortB : RecordB String ℤ := ⟨some "tx-1", some 200000, some 300000, some 300000⟩

/-- Stamps from one end of `int64` to the other. -/
def wideA : RecordA String ℤ := ⟨some "tx-1", some (-2 ^ 63), some 0, some 0, none⟩

def wideB : RecordB String ℤ :=
  ⟨some "tx-1", some (2 ^ 63 - 1), some (2 ^ 63 - 1), some (2 ^ 63 - 1)⟩

theorem single_mem {a : RecordA String ℤ} {b : RecordB String ℤ}
    (ha : a.transactionId = some "tx-1") (hb : b.transactionId = some "tx-1") :
    single a b ∈ merged Pandas.reference [a] [b] := by
  have hids : "tx-1" ∈ (merged Pandas.reference [a] [b]).map (·.transactionId) := by
    rw [mem_ids_merged Pandas.reference_lawful]
    simp [ha, hb]
  obtain ⟨row, hrow, hid⟩ := List.mem_map.mp hids
  obtain ⟨-, -, heq⟩ := exists_groups_of_mem Pandas.reference_lawful hrow
  have hmin : ∀ t : Option ℤ, (Pandas.reference : Pandas String ℤ).aggMin [t] = t := by
    rintro (_ | _) <;> rfl
  have hmax : ∀ t : Option ℤ, (Pandas.reference : Pandas String ℤ).aggMax [t] = t := by
    rintro (_ | _) <;> rfl
  have hsingle : row = single a b := by
    rw [heq, hid]
    simp [joinedRow, groupA, groupB, single, ha, hb, hmin, hmax]
  rwa [← hsingle]

end Sample

/-- The latencies are floats: `0.2` and `0.1` add up to more than `0.3`.  And stamps that are
    further apart than `int64` reaches give a difference that has wrapped around. -/
theorem parts_exceed_endToEnd :
    (Sample.shortA.Ordered 0 0 100000 ∧ Sample.shortB.Ordered 200000 300000 300000 ∧
      ∃ row ∈ merged Pandas.reference [Sample.shortA] [Sample.shortB],
        ∃ crypto network endToEnd, row.cryptoPathMs = some crypto ∧
          row.networkTransitMs = some network ∧ row.endToEndMs = some endToEnd ∧
          endToEnd < crypto + network) ∧
    ∃ row ∈ merged Pandas.reference [Sample.wideA] [Sample.wideB],
      ∃ crypto network endToEnd, row.cryptoPathMs = some crypto ∧
        row.networkTransitMs = some network ∧ row.endToEndMs = some endToEnd ∧
        endToEnd < 0 ∧ 0 < crypto + network := by
  refine ⟨⟨⟨rfl, rfl, rfl, by decide, by decide, by decide, by decide⟩,
    ⟨rfl, rfl, rfl, by decide, by decide, by decide, by decide⟩, _,
    Sample.single_mem rfl rfl, _, _, _, rfl, rfl, rfl, ?_⟩, _, Sample.single_mem rfl rfl, _, _, _,
    rfl, rfl, rfl, ?_, ?_⟩
  · decide +kernel
  · decide +kernel
  · decide +kernel

/-- The retried transaction has one row, which adds up; the receiver's part is that of the
    second delivery. -/
theorem retried_latency_decomposition :
    ((merged Pandas.reference Sample.retriedA Sample.retriedB).map (·.transactionId)).Nodup ∧
    ∃ row ∈ merged Pandas.reference Sample.retriedA Sample.retriedB,
      (∃ received extracted signed receivedB verified ingested crypto network endToEnd,
        row.Decomposes received extracted signed receivedB verified ingested crypto network
          endToEnd) ∧
      ∃ latest ∈ Sample.retriedB,
        row.cryptoB = differenceMs latest.tVerifiedB latest.tReceivedB := by
  have hA : ∀ record ∈ Sample.retriedA, ∃ received extracted signed,
      record.Ordered received extracted signed := by
    intro record hrecord
    rcases List.mem_cons.mp hrecord with rfl | hrecord
    · exact ⟨100, 200, 300, rfl, rfl, rfl, by decide, by decide, by decide, by decide⟩
    · obtain rfl := List.mem_singleton.mp hrecord
      exact ⟨100, 700, 900, rfl, rfl, rfl, by decide, by decide, by decide, by decide⟩
  have hB : ∀ record ∈ Sample.retriedB, ∃ received verified ingested,
      record.Ordered received verified ingested := by
    intro record hrecord
    rcases List.mem_cons.mp hrecord with rfl | hrecord
    · exact ⟨400, 500, 600, rfl, rfl, rfl, by decide, by decide, by decide, by decide⟩
    · obtain rfl := List.mem_singleton.mp hrecord
      exact ⟨1000, 1200, 1500, rfl, rfl, rfl, by decide, by decide, by decide, by decide⟩
  obtain ⟨hnodup, hids, hrows⟩ := latency_decomposition Pandas.reference
    Pandas.reference_lawful Sample.retriedA Sample.retriedB hA hB
  have hid : "tx-1" ∈ (merged Pandas.reference Sample.retriedA Sample.retriedB).map
      (·.transactionId) :=
    (hids "tx-1").mpr ⟨⟨_, List.mem_cons_self, rfl⟩, ⟨_, List.mem_cons_self, rfl⟩⟩
  obtain ⟨row, hrow, hrowId⟩ := List.mem_map.mp hid
  obtain ⟨hdecomposes, hlatest⟩ := hrows row hrow
  have hgroup : (Sample.retriedB.filter fun record =>
      record.transactionId = some row.transactionId) = Sample.retriedB := by
    rw [hrowId]
    rfl
  rw [hgroup] at hlatest
  have hdisjoint : Sample.retriedB.Pairwise RecordB.Disjoint := by
    refine .cons ?_ (List.pairwise_singleton _ _)
    intro record hrecord
    obtain rfl := List.mem_singleton.mp hrecord
    exact Or.inl ⟨500, 1000, rfl, rfl, by decide⟩
  obtain ⟨latest, hmem, -, hcrypto⟩ := hlatest hdisjoint
  exact ⟨hnodup, row, hrow, hdecomposes, latest, hmem, hcrypto⟩

end QsTie.Benchmark
