import IpBlocks.Proofs.Report.Concatenation

namespace IpBlocks

/-!
# Runs over limited sinks

A limit on a sink never changes what is written, it only ends the run.  If the
transcript of a run fits the limits, the run over limited sinks ends as the
run over sinks without limits does.  Otherwise it fails, and its sinks hold the
longest front part of the transcript that fits
(`limits_cut_the_transcript`).
-/

namespace Report

/-- Whether the bytes meant for each of the sinks are within its limit. -/
def Fits (outLimit errLimit : Option Nat) (offers : List Offer) : Prop :=
  (∀ limit ∈ outLimit, (Channel.out.share offers).length ≤ limit) ∧
    ∀ limit ∈ errLimit, (Channel.err.share offers).length ≤ limit

instance (outLimit errLimit : Option Nat) (offers : List Offer) :
    Decidable (Fits outLimit errLimit offers) :=
  inferInstanceAs (Decidable (_ ∧ _))

namespace Sinks

/-- New sinks have room for what fits their limits. -/
theorem limited_admits_iff
    {outLimit errLimit : Option Nat}
    {offers : List Offer} :
    (limited outLimit errLimit).Admits offers ↔
      Fits outLimit errLimit offers := by
  simp [Admits, Sink.HasRoom, Fits, limited]

/-- New sinks have room for nothing further, whatever their limits. -/
theorem limited_admits_nil (outLimit errLimit : Option Nat) :
    (limited outLimit errLimit).Admits [] :=
  limited_admits_iff.mpr ⟨fun _ _ => Nat.zero_le _, fun _ _ => Nat.zero_le _⟩

/-- A new sink ends with its share of what it has accepted. -/
theorem toList_accepted_limited_taking
    (outLimit errLimit : Option Nat)
    (offers : List Offer)
    (channel : Channel) :
    (((limited outLimit errLimit).taking offers).on
        channel).accepted.toList =
      channel.share offers := by
  rw [on_taking, Sink.toList_accepted_grown]
  cases channel <;> rfl

/-- A sink that refuses a byte is filled up to its limit. -/
theorem limit_eq_of_full
    {sinks : Sinks}
    {kept : List Offer}
    {refused : Offer}
    (admitted : sinks.Admits kept)
    (full : ¬ sinks.Admits (kept ++ [refused])) :
    (sinks.on refused.channel).limit =
      some ((sinks.taking kept).on refused.channel).accepted.size := by
  have limited :=
    Sink.limit_eq_of_full (admits_iff.mp admitted refused.channel)
      (not_hasRoom_of_excess admitted full)
  rw [limited]
  simp [Sink.grown]

end Sinks

/-- Offers that fit, but not with one more, are the longest that fit. -/
theorem length_le_of_fits
    {outLimit errLimit : Option Nat}
    {kept other rest : List Offer}
    {refused : Offer}
    (full : ¬ Fits outLimit errLimit (kept ++ [refused]))
    (leading : other <+: kept ++ refused :: rest)
    (fits : Fits outLimit errLimit other) :
    other.length ≤ kept.length := by
  by_contra longer
  have further : kept ++ [refused] <+: kept ++ refused :: rest :=
    ⟨rest, List.append_assoc kept [refused] rest⟩
  have within : kept ++ [refused] <+: other := by
    apply List.prefix_of_prefix_length_le further leading
    rw [List.length_append, List.length_singleton]
    omega
  rw [← Sinks.limited_admits_iff] at full fits
  exact full (fits.of_isPrefix within)

/-- A run whose transcript fits the limits ends with all of it. -/
theorem run_limited_of_fits
    (layout : Layout)
    {targets : List String}
    {outLimit errLimit : Option Nat}
    (fits : Fits outLimit errLimit (layout.transcript targets)) :
    run layout (.limited outLimit errLimit) targets =
      .ok
        ⟨layout.tally targets,
          (Sinks.limited outLimit errLimit).taking
            (layout.transcript targets)⟩ := by
  rw [run_eq_feed layout (Sinks.limited_admits_nil outLimit errLimit),
    Sinks.feed_eq_ok (Sinks.limited_admits_iff.mpr fits)]
  rfl

/-- Another run ends at the first byte that does not fit, whatever follows. -/
theorem run_limited_of_not_fits
    (layout : Layout)
    {targets : List String}
    {outLimit errLimit : Option Nat}
    (excess : ¬ Fits outLimit errLimit (layout.transcript targets)) :
    ∃ kept refused rest,
      layout.transcript targets = kept ++ refused :: rest ∧
        Fits outLimit errLimit kept ∧
          ¬ Fits outLimit errLimit (kept ++ [refused]) ∧
            ∀ later : List String,
              run layout (.limited outLimit errLimit) (targets ++ later) =
                .error ((Sinks.limited outLimit errLimit).taking kept) := by
  have sound := Sinks.limited_admits_nil outLimit errLimit
  simp only [← Sinks.limited_admits_iff] at excess ⊢
  obtain ⟨kept, refused, rest, whole, admitted, full, fed⟩ :=
    Sinks.feed_eq_error sound excess
  refine ⟨kept, refused, rest, whole, admitted, full, fun later => ?_⟩
  rw [run_eq_feed layout sound, Layout.transcript_append,
    Sinks.feed_append, fed]
  rfl

/--
The transcript of a run is what the run leaves in sinks without limits.  If it
fits the limits of other sinks, the run leaves the same bytes in them and
counts the same.  Otherwise the run over those sinks fails, and leaves in them
the longest front part of the transcript that fits: each sink holds the front
part of what it would hold without limits, the sink that refused a byte holds
as many bytes as its limit says, and no further target changes anything.
-/
theorem limits_cut_the_transcript
    (layout : Layout)
    (targets : List String)
    (outLimit errLimit : Option Nat) :
    let transcript := layout.transcript targets
    let sinks := Sinks.limited outLimit errLimit
    ∃ whole,
      run layout .unlimited targets = .ok whole ∧
      (∀ channel : Channel,
        (whole.sinks.on channel).accepted.toList =
          channel.share transcript) ∧
      (Fits outLimit errLimit transcript →
        ∃ progress,
          run layout sinks targets = .ok progress ∧
          progress.tally = whole.tally ∧
          ∀ channel : Channel,
            (progress.sinks.on channel).accepted =
              (whole.sinks.on channel).accepted) ∧
      (¬ Fits outLimit errLimit transcript →
        ∃ kept refused rest left,
          transcript = kept ++ refused :: rest ∧
          Fits outLimit errLimit kept ∧
          (∀ other, other <+: transcript → Fits outLimit errLimit other →
            other.length ≤ kept.length) ∧
          run layout sinks targets = .error left ∧
          (∀ channel : Channel,
            (left.on channel).accepted.toList = channel.share kept ∧
              channel.share kept <+:
                (whole.sinks.on channel).accepted.toList) ∧
          (sinks.on refused.channel).limit =
            some (left.on refused.channel).accepted.size ∧
          ∀ later : List String,
            run layout sinks (targets ++ later) = .error left) := by
  intro transcript sinks
  have shares :
      ∀ channel : Channel,
        ((Sinks.unlimited.taking transcript).on channel).accepted.toList =
          channel.share transcript :=
    Sinks.toList_accepted_limited_taking none none transcript
  refine ⟨_, run_unlimited layout targets, shares, ?_, ?_⟩
  · intro fits
    refine ⟨_, run_limited_of_fits layout fits, rfl, fun channel => ?_⟩
    apply Array.toList_inj.mp
    rw [shares channel]
    exact Sinks.toList_accepted_limited_taking _ _ _ channel
  · intro excess
    obtain ⟨kept, refused, rest, cut, fits, full, failed⟩ :=
      run_limited_of_not_fits layout excess
    have whole : transcript = kept ++ refused :: rest := cut
    have failedHere := failed []
    rw [List.append_nil] at failedHere
    refine
      ⟨kept, refused, rest, sinks.taking kept, whole, fits, ?_, failedHere,
        ?_, ?_, failed⟩
    · intro other leading otherFits
      exact length_le_of_fits full (whole ▸ leading) otherFits
    · intro channel
      refine ⟨Sinks.toList_accepted_limited_taking _ _ _ channel, ?_⟩
      rw [shares channel, whole, Channel.share_append]
      exact List.prefix_append _ _
    · rw [← Sinks.limited_admits_iff] at fits full
      exact Sinks.limit_eq_of_full fits full

/-- Limits that are met exactly change nothing, others may cut a character. -/
theorem limits_cut_the_transcript_inside_character :
    let layout : Layout := ⟨.cidr, false⟩
    let targets := ["10.0.0.0/8", "é", "10.0.0.0/9"]
    let left : Sinks :=
      ⟨⟨some 22, Text.bytes "10.0.0.0/8\n"⟩,
        ⟨some 8, #[101, 114, 114, 111, 114, 58, 32, 195]⟩⟩
    (Fits (some 22) (some 34) (layout.transcript targets) ∧
      ∃ progress,
        run layout (.limited (some 22) (some 34)) targets = .ok progress ∧
          progress.tally = ⟨3, 1⟩) ∧
      ¬ Fits (some 22) (some 8) (layout.transcript targets) ∧
        ∀ later : List String,
          run layout (.limited (some 22) (some 8)) (targets ++ later) =
            .error left := by
  intro layout targets left
  have fits : Fits (some 22) (some 34) (layout.transcript targets) := by
    decide +kernel
  have excess : ¬ Fits (some 22) (some 8) (layout.transcript targets) := by
    decide +kernel
  obtain ⟨whole, unlimited, -, equal, -⟩ :=
    limits_cut_the_transcript layout targets (some 22) (some 34)
  obtain ⟨progress, succeeded, sameTally, -⟩ := equal fits
  rw [run_unlimited] at unlimited
  cases unlimited
  refine ⟨⟨fits, progress, succeeded, ?_⟩, excess, ?_⟩
  · rw [sameTally]
    decide +kernel
  · obtain ⟨_, -, -, -, cut⟩ :=
      limits_cut_the_transcript layout targets (some 22) (some 8)
    obtain ⟨_, _, _, reached, -, -, -, failed, -, -, further⟩ := cut excess
    have computed :
        run layout (.limited (some 22) (some 8)) targets = .error left := by
      decide +kernel
    rw [computed] at failed
    cases failed
    exact further

end Report

end IpBlocks
