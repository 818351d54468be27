import NanokvmRdp.Gateway.ParameterSets
import NanokvmRdp.Gateway.VideoSource
import NanokvmRdp.Lib.Chain

/-!
# The decoder behind the HTTP snapshots

`http_video_thread` reads access units under one lease and pushes them into a
decoder of its own. It starts with an IDR and goes back to waiting for one after
a loss or a failed push. The history has every unit the RTP client returned, also
those the video source suppresses, with what became of it. A unit that needs its
predecessors is pushed only if all of them were, from an IDR on, under one value
of the loss counter (`http_units_chained`).
-/

namespace NanokvmRdp.Gateway

open Rtp (Returned)

-- ---------------------------------------------------------------------------
-- Annex B form
-- ---------------------------------------------------------------------------

/-- `h264_ensure_annexb`. The size wraps around exactly if it is above
`SIZE_MAX`. -/
def h264EnsureAnnexb (memory : Memory) (buffer : H264Buffer) (data : List UInt8) :
    Option (List UInt8) × H264Buffer :=
  if data = [] ∨ h264HasAnnexbStartCode data = true then (some data, buffer)
  else if h264AnnexbSize data > memory.sizeMax then (none, buffer)
  else
    match buffer.reserve memory (h264AnnexbSize data) with
    | none => (none, buffer)
    | some buffer =>
      let copy := h264CopyAnnexb data
      let storage := write buffer.storage 0 copy
      (some (storage.take copy.length), { data := some storage, length := copy.length })

theorem startCode_h264CopyAnnexb {data : List UInt8} (h : data ≠ []) :
    h264HasAnnexbStartCode (h264CopyAnnexb data) = true ∧ data <:+ h264CopyAnnexb data := by
  unfold h264CopyAnnexb
  split
  · rename_i hempty
    exact absurd (List.length_eq_zero_iff.mp hempty) h
  · split
    · rename_i hstart
      exact ⟨hstart, List.suffix_rfl⟩
    · exact ⟨by simp [h264HasAnnexbStartCode], List.suffix_append _ _⟩

theorem h264EnsureAnnexb_some {memory : Memory} {buffer buffer' : H264Buffer}
    {data out : List UInt8} (hne : data ≠ [])
    (h : h264EnsureAnnexb memory buffer data = (some out, buffer')) :
    h264HasAnnexbStartCode out = true ∧ data <:+ out := by
  unfold h264EnsureAnnexb at h
  split at h
  · rename_i hstart
    cases h
    exact ⟨hstart.resolve_left hne, List.suffix_rfl⟩
  · split at h
    · cases h
    · split at h
      · cases h
      · cases h
        rw [← Nat.zero_add (h264CopyAnnexb data).length, take_write (Nat.zero_le _)]
        exact startCode_h264CopyAnnexb hne

theorem H264Buffer.le_capacity_reserve {memory : Memory} {buffer buffer' : H264Buffer} {size : Nat}
    (h : buffer.reserve memory size = some buffer') : size ≤ buffer'.storage.length := by
  unfold reserve at h
  split at h
  · rename_i hlarge
    split at h
    · cases h
      simp only [storage, Option.getD_some, List.length_append, List.length_replicate, capacity]
        at hlarge ⊢
      omega
    · cases h
  · rename_i hsmall
    cases h
    exact Nat.not_lt.mp hsmall

namespace H264ParameterSets

theorem length_missing (buffer : H264Buffer) (present : Bool) :
    (if missingSize buffer present ≠ 0 then h264CopyAnnexb buffer.contents else []).length =
      missingSize buffer present := by
  split
  · rename_i hsize
    rw [missingSize] at hsize ⊢
    split
    · rename_i hnone
      rw [if_pos hnone] at hsize
      exact absurd rfl hsize
    · rw [h264CopyAnnexb, h264AnnexbSize]
      split
      · rfl
      · split <;> simp
  · rename_i hsize
    exact (not_not.mp hsize).symm

theorem prepareIdr_suffix {memory : Memory} {sets sets' : H264ParameterSets}
    {au payload : List UInt8} {nalMask : UInt32}
    (h : sets.prepareIdr memory au nalMask = (some payload, sets')) : au <:+ payload := by
  unfold prepareIdr at h
  simp only at h
  split at h
  · cases h
  · split at h
    · cases h
      exact List.suffix_rfl
    · split at h
      · cases h
      · rename_i scratch hreserve
        have hroom := H264Buffer.le_capacity_reserve hreserve
        have hsps := length_missing sets.sps (nalTypeBit nalMask 7)
        have hpps := length_missing sets.pps (nalTypeBit nalMask 8)
        generalize (if missingSize sets.sps (nalTypeBit nalMask 7) ≠ 0 then
          h264CopyAnnexb sets.sps.contents else []) = sps at h hsps
        generalize (if missingSize sets.pps (nalTypeBit nalMask 8) ≠ 0 then
          h264CopyAnnexb sets.pps.contents else []) = pps at h hpps
        cases h
        have hfirst : (write scratch.storage 0 sps).length = scratch.storage.length :=
          length_write (by omega)
        have hsecond : (write (write scratch.storage 0 sps) sps.length pps).length =
            scratch.storage.length := by
          rw [length_write (by omega), hfirst]
        rw [take_write (by omega)]
        exact List.suffix_append _ _

end H264ParameterSets

-- ---------------------------------------------------------------------------
-- The thread
-- ---------------------------------------------------------------------------

/-- What became of a unit: not returned by the video source, without data,
passed over while an IDR is awaited, lost to a failed allocation, or pushed. -/
inductive HttpFate where
  | suppressed
  | ignored
  | skipped
  | refused
  | pushed (data : List UInt8) (decoded : Bool)
  deriving DecidableEq, Repr

structure HttpEntry where
  unit : Returned
  fate : HttpFate
  deriving DecidableEq, Repr

structure HttpReader where
  source : VideoSource
  parameterSets : H264ParameterSets := {}
  fallback : H264Buffer := {}
  needIdr : Bool := true
  left : Bool := false
  history : List HttpEntry := []
  deriving DecidableEq, Repr

/-- A unit of the RTP client, with the answers of `request_idr` and
`ffmpeg_decoder_push` should it lead to these calls. -/
structure HttpRead where
  unit : Returned
  requested : Bool := false
  decoded : Bool := true
  deriving DecidableEq, Repr

namespace HttpReader

def handle (memory : Memory) (s : HttpReader) (unit : VideoSource.AccessUnit) (decoded : Bool) :
    HttpFate × HttpReader :=
  if unit.data = [] then (.ignored, s)
  else
    let idr := nalTypeBit unit.nalTypes 5
    let sets := s.parameterSets.update memory unit.data unit.nalTypes
    let needIdr := s.needIdr || unit.packetLoss
    if needIdr && !idr then (.skipped, { s with parameterSets := sets, needIdr })
    else
      match (if idr then sets.prepareIdr memory unit.data unit.nalTypes else (some unit.data, sets)) with
      | (none, sets) => (.refused, { s with parameterSets := sets, needIdr, left := true })
      | (some payload, sets) =>
        match h264EnsureAnnexb memory s.fallback payload with
        | (none, fallback) =>
          (.refused, { s with parameterSets := sets, fallback, needIdr, left := true })
        | (some data, fallback) =>
          (.pushed data decoded, { s with
            parameterSets := sets
            fallback
            needIdr := if !decoded then true else if idr then false else needIdr })

def take (memory : Memory) (s : HttpReader) (read : HttpRead) : HttpReader :=
  match s.source.turn read.unit read.requested with
  | (none, source) => { s with source, history := s.history ++ [⟨read.unit, .suppressed⟩] }
  | (some unit, source) =>
    let (fate, s) := { s with source }.handle memory unit read.decoded
    { s with history := s.history ++ [⟨read.unit, fate⟩] }

def run (memory : Memory) : HttpReader → List HttpRead → HttpReader
  | s, [] => s
  | s, read :: reads => if s.left then s else run memory (s.take memory read) reads

/-- After `device_session_acquire` has opened the source. -/
def start (source : VideoSource) : HttpReader := { source := (source.videoSourceOpen true).2 }

end HttpReader

namespace HttpEntry

/-- An IDR that the decoder took, under this value of the loss counter. -/
def Anchors (losses : UInt32) (entry : HttpEntry) : Prop :=
  HasNal entry.unit.data 5 ∧ entry.unit.losses = losses ∧ ∃ data, entry.fate = .pushed data true

def Keeps (losses : UInt32) (entry : HttpEntry) : Prop :=
  entry.unit.losses = losses ∧
    (entry.unit.data = [] ∨ ∃ data, entry.fate = .pushed data true)

/-- A pushed unit without an IDR and without parameter sets. -/
def Dependent (entry : HttpEntry) : Prop :=
  (∃ data decoded, entry.fate = .pushed data decoded) ∧ ¬ HasNal entry.unit.data 5 ∧
    ¬ HasNal entry.unit.data 7 ∧ ¬ HasNal entry.unit.data 8

end HttpEntry

/-- Under this value of the loss counter an IDR was decoded, and every unit since. -/
def HttpIntact (losses : UInt32) (history : List HttpEntry) : Prop :=
  Chain.Intact (HttpEntry.Anchors losses) (HttpEntry.Keeps losses) history

def HttpChained (history : List HttpEntry) : Prop :=
  Log.Always (fun before entry => entry.Dependent → HttpIntact entry.unit.losses before) history

def HttpWhole (entry : HttpEntry) : Prop :=
  ∀ data decoded, entry.fate = .pushed data decoded →
    h264HasAnnexbStartCode data = true ∧ entry.unit.data <:+ data

-- ---------------------------------------------------------------------------
-- One unit
-- ---------------------------------------------------------------------------

namespace HttpReader

inductive Handles (s : HttpReader) (unit : VideoSource.AccessUnit) (idr : Bool) :
    HttpFate × HttpReader → Prop
  | ignored : unit.data = [] → Handles s unit idr (.ignored, s)
  | skipped : s'.source = s.source → s'.history = s.history → s'.needIdr = true →
      s'.left = s.left → Handles s unit idr (.skipped, s')
  | refused : s'.source = s.source → s'.history = s.history → s'.left = true →
      Handles s unit idr (.refused, s')
  | pushed : s'.source = s.source → s'.history = s.history → s'.needIdr = !decoded →
      s'.left = s.left → unit.data ≠ [] → h264HasAnnexbStartCode data = true →
      unit.data <:+ data → idr = true ∨ s.needIdr = false →
      Handles s unit idr (.pushed data decoded, s')

theorem handles_handle (memory : Memory) (s : HttpReader) (unit : VideoSource.AccessUnit)
    (decoded : Bool) :
    Handles s unit (nalTypeBit unit.nalTypes 5) (s.handle memory unit decoded) := by
  unfold handle
  split
  · rename_i hempty
    exact .ignored hempty
  · rename_i hdata
    simp only
    split
    · rename_i hskip
      rw [Bool.and_eq_true] at hskip
      exact .skipped rfl rfl hskip.1 rfl
    · rename_i hsend
      rw [Bool.and_eq_true, not_and', Bool.not_eq_true', Bool.not_eq_true, Bool.or_eq_false_iff]
        at hsend
      split
      · exact .refused rfl rfl rfl
      · rename_i payload sets hpayload
        have hunit : unit.data <:+ payload := by
          split at hpayload
          · exact H264ParameterSets.prepareIdr_suffix hpayload
          · cases hpayload
            exact List.suffix_rfl
        have hne : payload ≠ [] := by
          rintro rfl
          exact hdata (List.suffix_nil.mp hunit)
        split
        · exact .refused rfl rfl rfl
        · rename_i data fallback hensure
          obtain ⟨hstart, hsuffix⟩ := h264EnsureAnnexb_some hne hensure
          refine .pushed rfl rfl ?_ rfl hdata hstart (hunit.trans hsuffix) ?_
          · cases hidr : nalTypeBit unit.nalTypes 5 with
            | true => cases decoded <;> rfl
            | false =>
              obtain ⟨hneed, hloss⟩ := hsend hidr
              cases decoded <;> simp [hneed, hloss]
          · cases hidr : nalTypeBit unit.nalTypes 5 with
            | true => exact .inl rfl
            | false => exact .inr (hsend hidr).1

/-- While the source does not wait and no IDR is needed, the chain is intact. -/
structure Sound (s : HttpReader) : Prop where
  intact : s.left = false → s.needIdr = false → s.source.awaitingIdr = false →
    HttpIntact s.source.observedLosses s.history
  chained : HttpChained s.history
  whole : ∀ entry ∈ s.history, HttpWhole entry

theorem not_hasNal_nil (type : UInt8) : ¬ HasNal [] type := by
  simp [HasNal]

theorem Sound.concat {s s' : HttpReader} (h : s.Sound) (hhistory : s'.history = s.history ++ [entry])
    (hentry : entry.Dependent → HttpIntact entry.unit.losses s.history) (hwhole : HttpWhole entry)
    (hintact : s'.left = false → s'.needIdr = false → s'.source.awaitingIdr = false →
      HttpIntact s'.source.observedLosses (s.history ++ [entry])) : s'.Sound where
  intact := hhistory ▸ hintact
  chained := hhistory ▸ h.chained.concat hentry
  whole := by
    simpa [hhistory, or_imp, forall_and] using And.intro h.whole hwhole

/-- A unit that was not pushed says nothing about the decoder. -/
theorem Sound.concat_unpushed {s s' : HttpReader} (h : s.Sound) {unit : Returned} {fate : HttpFate}
    (hhistory : s'.history = s.history ++ [⟨unit, fate⟩])
    (hfate : ∀ data decoded, fate ≠ .pushed data decoded)
    (hintact : s'.left = false → s'.needIdr = false → s'.source.awaitingIdr = false →
      HttpIntact s'.source.observedLosses (s.history ++ [⟨unit, fate⟩])) : s'.Sound := by
  refine h.concat hhistory ?_ ?_ hintact
  · rintro ⟨⟨data, decoded, hpushed⟩, -⟩
    exact absurd hpushed (hfate data decoded)
  · intro data decoded hpushed
    exact absurd hpushed (hfate data decoded)

theorem sound_take {memory : Memory} {s : HttpReader} (h : s.Sound) (hgoing : s.left = false)
    (read : HttpRead) : (s.take memory read).Sound := by
  obtain ⟨-, hobserved, -, -, -, hawaiting⟩ := s.source.noted_fields read.unit read.requested
  -- without an IDR the source does not stop waiting, and the counter has not moved
  have hbefore : s.needIdr = false → ¬ HasNal read.unit.data 5 →
      (s.source.noted read.unit read.requested).awaitingIdr = false →
      HttpIntact read.unit.losses s.history := by
    intro hneed hidr hawaits
    obtain ⟨hnal, -⟩ | ⟨hprevious, hlosses⟩ := hawaiting.mp hawaits
    · exact absurd hnal hidr
    · rw [hlosses]
      exact h.intact hgoing hneed hprevious
  unfold take
  rcases s.source.turn_cases read.unit read.requested with
    ⟨returned, hturn, hunit, htypes, -, hreturns⟩ | ⟨hturn, hwaits, -, -⟩
  · rw [hturn]
    have hhandles := handles_handle memory
      { s with source := (s.source.noted read.unit read.requested).reported } returned read.decoded
    have hdata : returned.data = read.unit.data := by rw [← hunit]
    have hidr : nalTypeBit returned.nalTypes 5 = true ↔ HasNal read.unit.data 5 := by
      rw [htypes]
      exact nalTypeBit_h264NalTypeMask (by decide) _
    have hlosses : (s.source.noted read.unit read.requested).reported.observedLosses =
        read.unit.losses := hobserved
    simp only
    generalize handle memory { s with source := (s.source.noted read.unit read.requested).reported }
      returned read.decoded = result at hhandles ⊢
    cases hhandles with
    | ignored hempty =>
      rw [hdata] at hempty
      refine h.concat_unpushed rfl nofun fun _ hneed hawaits => ?_
      have hnone : ¬ HasNal read.unit.data 5 := hempty ▸ not_hasNal_nil 5
      have hkeeps : HttpEntry.Keeps read.unit.losses ⟨read.unit, .ignored⟩ := ⟨rfl, .inl hempty⟩
      rw [hlosses]
      exact (hbefore hneed hnone hawaits).concat hkeeps
    | skipped hsource hhistory hneed hleft =>
      rw [hhistory]
      refine h.concat_unpushed rfl nofun fun _ hneeds => ?_
      rw [hneed] at hneeds
      cases hneeds
    | refused hsource hhistory hleft =>
      rw [hhistory]
      refine h.concat_unpushed rfl nofun fun hgoes => ?_
      rw [hleft] at hgoes
      cases hgoes
    | @pushed decoded data after hsource hhistory hneed hleft hne hstart hsuffix hsent =>
      rw [hhistory]
      rw [hidr] at hsent
      rw [hdata] at hsuffix
      refine h.concat rfl ?_ ?_ fun _ hneeds hawaits => ?_
      · rintro ⟨-, hnone, hsps, hpps⟩
        refine hbefore (hsent.resolve_left hnone) hnone (hreturns.resolve_right ?_)
        exact not_or.mpr ⟨hsps, hpps⟩
      · rintro _ _ ⟨⟩
        exact ⟨hstart, hsuffix⟩
      · have hdecoded : decoded = true := by simpa [hneed] using hneeds
        simp only [hsource] at hawaits ⊢
        rw [hlosses]
        by_cases hnal : HasNal read.unit.data 5
        · exact Chain.intact_concat ⟨hnal, rfl, data, by rw [hdecoded]⟩ _
        · have hkeeps : HttpEntry.Keeps read.unit.losses ⟨read.unit, .pushed data decoded⟩ :=
            ⟨rfl, .inr ⟨data, by rw [hdecoded]⟩⟩
          exact (hbefore (hsent.resolve_left hnal) hnal hawaits).concat hkeeps
  · rw [hturn]
    refine h.concat_unpushed rfl nofun fun _ _ hawaits => ?_
    rw [hwaits] at hawaits
    cases hawaits

theorem sound_start (source : VideoSource) : (start source).Sound where
  intact _ h := nomatch h
  chained := Log.always_nil
  whole _ h := nomatch h

theorem sound_run {memory : Memory} {s : HttpReader} (h : s.Sound) (reads : List HttpRead) :
    (s.run memory reads).Sound := by
  fun_induction run memory s reads with
  | case1 s => exact h
  | case2 s read reads hleft => exact h
  | case3 s read reads hgoing ih => exact ih (sound_take h (Bool.eq_false_of_not_eq_true hgoing) read)

/-- An IDR with its parameter sets, a P-frame, a P-frame after a loss and one
more, of which the source returns the first two. -/
def lossyReads : List HttpRead :=
  [⟨⟨codedUnit [spsNal, ppsNal, idrNal], 0, 1, 0⟩, false, true⟩,
    ⟨⟨[0, 0, 0, 1, 0x41, 0x9a], 9000, 1, 0⟩, false, true⟩,
    ⟨⟨[0, 0, 0, 1, 0x41, 0x9b], 18000, 1, 1⟩, true, true⟩,
    ⟨⟨[0, 0, 0, 1, 0x41, 0x9c], 27000, 1, 1⟩, true, true⟩]

end HttpReader

end NanokvmRdp.Gateway
