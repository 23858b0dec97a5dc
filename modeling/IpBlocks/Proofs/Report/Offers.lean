import IpBlocks.Proofs.Outcome
import IpBlocks.Report.Sink
import Mathlib.Data.List.Infix

namespace IpBlocks

/-!
# Offering bytes to sinks

A text reaches its sink byte after byte.  A byte is accepted if there is room
for it, and after a refusal nothing more is offered (`Sinks.feed`).  Offers to
the two sinks may stand in any order.

Sinks with room for all of some offers end with all of them
(`Sinks.feed_eq_ok`), other sinks with as many as fit
(`Sinks.feed_eq_error`).  Writing a text is offering its bytes
(`Sinks.write_eq_feed`).
-/

namespace Report

/-- A byte on its way to one of the sinks. -/
structure Offer where
  channel : Channel
  byte : UInt8
  deriving DecidableEq, Repr

namespace Channel

/-- The bytes of a text on their way to one of the sinks. -/
def offers (channel : Channel) (text : String) : List Offer :=
  (Text.bytes text).toList.map (Offer.mk channel)

/-- The bytes among some offers that are meant for one of the sinks. -/
def share (channel : Channel) (offers : List Offer) : List UInt8 :=
  (offers.filter fun offer => offer.channel = channel).map Offer.byte

@[simp] theorem share_nil (channel : Channel) :
    channel.share [] = [] :=
  rfl

@[simp] theorem share_append (channel : Channel) (front back : List Offer) :
    channel.share (front ++ back) =
      channel.share front ++ channel.share back := by
  simp [share]

/-- A sink's share of offers that are all meant for it is all of them. -/
theorem share_eq_map
    {channel : Channel}
    {offers : List Offer}
    (meant : ∀ offer ∈ offers, offer.channel = channel) :
    channel.share offers = offers.map Offer.byte := by
  have kept :
      offers.filter (fun offer => offer.channel = channel) = offers := by
    rw [List.filter_eq_self]
    intro offer member
    exact decide_eq_true (meant offer member)
  rw [share, kept]

/-- A sink has no share of offers that are all meant for the other one. -/
theorem share_eq_nil
    {channel other : Channel}
    {offers : List Offer}
    (meant : ∀ offer ∈ offers, offer.channel = channel)
    (different : other ≠ channel) :
    other.share offers = [] := by
  have dropped :
      offers.filter (fun offer => offer.channel = other) = [] := by
    rw [List.filter_eq_nil_iff]
    intro offer member
    rw [meant offer member, decide_eq_true_eq]
    exact different.symm
  rw [share, dropped, List.map_nil]

theorem channel_of_mem_offers
    {channel : Channel}
    {text : String}
    {offer : Offer}
    (member : offer ∈ channel.offers text) :
    offer.channel = channel := by
  obtain ⟨byte, -, rfl⟩ := List.mem_map.mp member
  rfl

@[simp] theorem share_offers (channel : Channel) (text : String) :
    channel.share (channel.offers text) = (Text.bytes text).toList := by
  rw [share_eq_map fun _ => channel_of_mem_offers, offers, List.map_map]
  exact List.map_id _

theorem share_offers_other
    {channel other : Channel}
    (different : other ≠ channel)
    (text : String) :
    other.share (channel.offers text) = [] :=
  share_eq_nil (fun _ => channel_of_mem_offers) different

end Channel

namespace Sink

/-- Whether a sink accepts so many further bytes. -/
def HasRoom (sink : Sink) (count : Nat) : Prop :=
  ∀ limit ∈ sink.limit, sink.accepted.size + count ≤ limit

instance (sink : Sink) (count : Nat) :
    Decidable (sink.HasRoom count) :=
  inferInstanceAs (Decidable (∀ limit ∈ sink.limit, _))

/-- A sink after it has accepted some further bytes. -/
def grown (sink : Sink) (bytes : List UInt8) : Sink :=
  { sink with accepted := sink.accepted ++ bytes.toArray }

@[simp] theorem toList_accepted_grown (sink : Sink) (bytes : List UInt8) :
    (sink.grown bytes).accepted.toList = sink.accepted.toList ++ bytes := by
  simp [grown]

theorem grown_nil (sink : Sink) :
    sink.grown [] = sink := by
  simp [grown]

theorem grown_append (sink : Sink) (front back : List UInt8) :
    sink.grown (front ++ back) = (sink.grown front).grown back := by
  simp [grown, Array.append_assoc]

/-- Room for bytes in a row is room for the first ones, then for the others. -/
theorem hasRoom_add_iff {sink : Sink} {bytes : List UInt8} {count : Nat} :
    sink.HasRoom (bytes.length + count) ↔
      sink.HasRoom bytes.length ∧ (sink.grown bytes).HasRoom count := by
  have size :
      (sink.grown bytes).accepted.size =
        sink.accepted.size + bytes.length := by
    simp [grown]
  constructor
  · intro room
    refine ⟨?_, ?_⟩
    · intro limit limited
      have := room limit limited
      omega
    · intro limit limited
      have := room limit limited
      omega
  · rintro ⟨-, room⟩ limit limited
    have := room limit limited
    omega

/-- A sink with room for no further byte is filled up to its limit. -/
theorem limit_eq_of_full
    {sink : Sink}
    {count : Nat}
    (room : sink.HasRoom count)
    (full : ¬ sink.HasRoom (count + 1)) :
    sink.limit = some (sink.accepted.size + count) := by
  rw [HasRoom, not_forall] at full
  obtain ⟨limit, full⟩ := full
  rw [Classical.not_imp] at full
  obtain ⟨limited, beyond⟩ := full
  have within := room limit limited
  have reached : limit = sink.accepted.size + count := by
    omega
  exact reached ▸ limited

/-- A text for which there is room is accepted. -/
theorem write_eq_ok
    {sink : Sink}
    {text : String}
    (room : sink.HasRoom (Text.bytes text).size) :
    sink.write text = .ok (sink.grown (Text.bytes text).toList) := by
  obtain ⟨limit, accepted⟩ := sink
  cases limit with
  | none =>
      simp [write, grown]
  | some limit =>
      have fits : accepted.size + (Text.bytes text).size ≤ limit :=
        room limit rfl
      simp [write, grown, fits]

/-- Of another text the bytes up to the limit are accepted. -/
theorem write_eq_error
    {sink : Sink}
    {text : String}
    {kept rest : List UInt8}
    {refused : UInt8}
    (whole : (Text.bytes text).toList = kept ++ refused :: rest)
    (room : sink.HasRoom kept.length)
    (full : ¬ sink.HasRoom (kept.length + 1)) :
    sink.write text = .error (sink.grown kept) := by
  have limited := limit_eq_of_full room full
  have written : Text.bytes text = (kept ++ refused :: rest).toArray :=
    Array.toList_inj.mp whole
  have longer : kept.length < (Text.bytes text).size := by
    simp [written]
  have beyond :
      ¬ sink.accepted.size + (Text.bytes text).size ≤
        sink.accepted.size + kept.length := by
    omega
  have cut :
      (sink.accepted ++ Text.bytes text).take
          (sink.accepted.size + kept.length) =
        sink.accepted ++ kept.toArray := by
    apply Array.toList_inj.mp
    simp [written]
  simp [write, grown, limited, beyond, cut]

end Sink

namespace Sinks

/-- The sink at one of the channels. -/
def on (sinks : Sinks) : Channel → Sink
  | .out => sinks.out
  | .err => sinks.err

/-- Sinks with another sink at one of the channels. -/
def put (sinks : Sinks) (channel : Channel) (sink : Sink) : Sinks :=
  match channel with
  | .out => { sinks with out := sink }
  | .err => { sinks with err := sink }

/-- Whether each of the sinks has room for its share of some offers. -/
def Admits (sinks : Sinks) (offers : List Offer) : Prop :=
  sinks.out.HasRoom (Channel.out.share offers).length ∧
    sinks.err.HasRoom (Channel.err.share offers).length

instance (sinks : Sinks) (offers : List Offer) :
    Decidable (sinks.Admits offers) :=
  inferInstanceAs (Decidable (_ ∧ _))

/-- Sinks after each of them has accepted its share of some offers. -/
def taking (sinks : Sinks) (offers : List Offer) : Sinks where
  out :=
    sinks.out.grown (Channel.out.share offers)
  err :=
    sinks.err.grown (Channel.err.share offers)

/-- Offer a byte, which is accepted only if there is room for it. -/
def offer (sinks : Sinks) (offer : Offer) : Except Sinks Sinks :=
  if sinks.Admits [offer] then
    .ok (sinks.taking [offer])
  else
    .error sinks

/-- Offer bytes one after another, until one is refused. -/
def feed (sinks : Sinks) (offers : List Offer) : Except Sinks Sinks :=
  offers.foldlM offer sinks

theorem admits_iff {sinks : Sinks} {offers : List Offer} :
    sinks.Admits offers ↔
      ∀ channel : Channel,
        (sinks.on channel).HasRoom (channel.share offers).length := by
  constructor
  · rintro ⟨outRoom, errRoom⟩ channel
    cases channel with
    | out => exact outRoom
    | err => exact errRoom
  · intro room
    exact ⟨room .out, room .err⟩

@[simp] theorem on_taking
    (sinks : Sinks)
    (offers : List Offer)
    (channel : Channel) :
    (sinks.taking offers).on channel =
      (sinks.on channel).grown (channel.share offers) := by
  cases channel <;> rfl

theorem taking_nil (sinks : Sinks) :
    sinks.taking [] = sinks := by
  simp [taking, Sink.grown_nil]

theorem taking_append (sinks : Sinks) (front back : List Offer) :
    sinks.taking (front ++ back) = (sinks.taking front).taking back := by
  simp [taking, Sink.grown_append]

/-- Room for offers in a row is room for the first ones, then for the others. -/
theorem admits_append_iff {sinks : Sinks} {front back : List Offer} :
    sinks.Admits (front ++ back) ↔
      sinks.Admits front ∧ (sinks.taking front).Admits back := by
  simp only [Admits, Channel.share_append, List.length_append,
    Sink.hasRoom_add_iff, taking]
  tauto

/-- Offers for which there is room leave no sink with more than its limit. -/
theorem Admits.taking_sound
    {sinks : Sinks}
    {offers : List Offer}
    (admitted : sinks.Admits offers) :
    (sinks.taking offers).Admits [] := by
  rw [← List.append_nil offers, admits_append_iff] at admitted
  exact admitted.2

/-- There is room for each front part of admitted offers. -/
theorem Admits.of_isPrefix
    {sinks : Sinks}
    {front offers : List Offer}
    (admitted : sinks.Admits offers)
    (leading : front <+: offers) :
    sinks.Admits front := by
  obtain ⟨back, rfl⟩ := leading
  exact (admits_append_iff.mp admitted).1

theorem feed_append (sinks : Sinks) (front back : List Offer) :
    sinks.feed (front ++ back) =
      sinks.feed front >>= fun grown => grown.feed back :=
  List.foldlM_append

/-- Offers for which there is room are all accepted. -/
theorem feed_eq_ok
    {sinks : Sinks}
    {offers : List Offer}
    (admitted : sinks.Admits offers) :
    sinks.feed offers = .ok (sinks.taking offers) := by
  induction offers generalizing sinks with
  | nil =>
      rw [taking_nil]
      rfl
  | cons first rest inductionHypothesis =>
      rw [← List.singleton_append] at admitted ⊢
      obtain ⟨firstAdmitted, restAdmitted⟩ := admits_append_iff.mp admitted
      rw [taking_append, ← inductionHypothesis restAdmitted, feed_append]
      have accepted :
          sinks.feed [first] = .ok (sinks.taking [first]) := by
        simp only [feed, List.foldlM_cons, List.foldlM_nil, offer,
          if_pos firstAdmitted]
        rfl
      rw [accepted, Outcome.ok_bind]

/-- Of other offers those before the first one without room are accepted. -/
theorem feed_eq_error
    {sinks : Sinks}
    {offers : List Offer}
    (sound : sinks.Admits [])
    (excess : ¬ sinks.Admits offers) :
    ∃ kept refused rest,
      offers = kept ++ refused :: rest ∧
        sinks.Admits kept ∧
          ¬ sinks.Admits (kept ++ [refused]) ∧
            sinks.feed offers = .error (sinks.taking kept) := by
  induction offers generalizing sinks with
  | nil =>
      exact absurd sound excess
  | cons first rest inductionHypothesis =>
      by_cases firstAdmitted : sinks.Admits [first]
      · have restExcess : ¬ (sinks.taking [first]).Admits rest :=
          fun restAdmitted =>
            excess (admits_append_iff.mpr ⟨firstAdmitted, restAdmitted⟩)
        obtain ⟨kept, refused, later, whole, admitted, full, fed⟩ :=
          inductionHypothesis firstAdmitted.taking_sound restExcess
        refine
          ⟨first :: kept, refused, later, congrArg (first :: ·) whole,
            ?_, ?_, ?_⟩
        · exact admits_append_iff.mpr ⟨firstAdmitted, admitted⟩
        · intro admittedFurther
          rw [← List.singleton_append, List.append_assoc]
            at admittedFurther
          exact full (admits_append_iff.mp admittedFurther).2
        · rw [← List.singleton_append (l := kept), taking_append, ← fed]
          simp only [feed, List.foldlM_cons, offer, if_pos firstAdmitted]
          rfl
      · refine ⟨[], first, rest, rfl, sound, firstAdmitted, ?_⟩
        rw [taking_nil]
        simp only [feed, List.foldlM_cons, offer, if_neg firstAdmitted]
        rfl

/-- No sink is fed beyond its limit. -/
theorem feed_sound
    {sinks grown : Sinks}
    {offers : List Offer}
    (sound : sinks.Admits [])
    (fed : sinks.feed offers = .ok grown) :
    grown.Admits [] := by
  by_cases admitted : sinks.Admits offers
  · rw [feed_eq_ok admitted] at fed
    cases fed
    exact admitted.taking_sound
  · obtain ⟨kept, refused, rest, -, -, -, cut⟩ :=
      feed_eq_error sound admitted
    rw [cut] at fed
    cases fed

/-- If only the last offer does not fit, the sink that it is meant for is full. -/
theorem not_hasRoom_of_excess
    {sinks : Sinks}
    {kept : List Offer}
    {refused : Offer}
    (admitted : sinks.Admits kept)
    (excess : ¬ sinks.Admits (kept ++ [refused])) :
    ¬ (sinks.on refused.channel).HasRoom
      ((refused.channel.share kept).length + 1) := by
  intro room
  have only : ∀ offer ∈ [refused], offer.channel = refused.channel :=
    fun offer member => congrArg _ (List.mem_singleton.mp member)
  refine excess (admits_iff.mpr fun channel => ?_)
  by_cases same : channel = refused.channel
  · rw [same, Channel.share_append, Channel.share_eq_map only,
      List.length_append, List.length_map, List.length_singleton]
    exact room
  · rw [Channel.share_append, Channel.share_eq_nil only same,
      List.append_nil]
    exact admits_iff.mp admitted channel

/-- Offers that are all meant for one sink leave the other one as it is. -/
theorem taking_eq_put
    (sinks : Sinks)
    {channel : Channel}
    {offers : List Offer}
    (meant : ∀ offer ∈ offers, offer.channel = channel) :
    sinks.taking offers =
      sinks.put channel
        ((sinks.on channel).grown (offers.map Offer.byte)) := by
  cases channel with
  | out =>
      simp only [taking, put, on, Channel.share_eq_map meant,
        Channel.share_eq_nil meant (show Channel.err ≠ .out by decide),
        Sink.grown_nil]
  | err =>
      simp only [taking, put, on, Channel.share_eq_map meant,
        Channel.share_eq_nil meant (show Channel.out ≠ .err by decide),
        Sink.grown_nil]

theorem write_eq_ok
    {sinks : Sinks}
    {channel : Channel}
    {text : String}
    {grown : Sink}
    (accepted : (sinks.on channel).write text = .ok grown) :
    sinks.write channel text = .ok (sinks.put channel grown) := by
  cases channel <;> rw [on] at accepted <;> simp [write, put, accepted]

theorem write_eq_error
    {sinks : Sinks}
    {channel : Channel}
    {text : String}
    {full : Sink}
    (refused : (sinks.on channel).write text = .error full) :
    sinks.write channel text = .error (sinks.put channel full) := by
  cases channel <;> rw [on] at refused <;> simp [write, put, refused]

/-- Writing a text is offering its bytes one after another. -/
theorem write_eq_feed
    {sinks : Sinks}
    (sound : sinks.Admits [])
    (channel : Channel)
    (text : String) :
    sinks.write channel text = sinks.feed (channel.offers text) := by
  have meant :
      ∀ offer ∈ channel.offers text, offer.channel = channel :=
    fun _ => Channel.channel_of_mem_offers
  have bytes :
      (channel.offers text).map Offer.byte = (Text.bytes text).toList := by
    rw [← Channel.share_eq_map meant, Channel.share_offers]
  by_cases admitted : sinks.Admits (channel.offers text)
  · have room := admits_iff.mp admitted channel
    rw [Channel.share_offers, Array.length_toList] at room
    rw [feed_eq_ok admitted, taking_eq_put sinks meant, bytes]
    exact write_eq_ok (Sink.write_eq_ok room)
  · obtain ⟨kept, refused, rest, whole, keptAdmitted, full, fed⟩ :=
      feed_eq_error sound admitted
    rw [whole] at meant bytes
    have keptMeant : ∀ offer ∈ kept, offer.channel = channel :=
      fun offer member => meant offer (List.mem_append_left _ member)
    have refusedMeant : refused.channel = channel :=
      meant refused (List.mem_append_right _ List.mem_cons_self)
    have room := admits_iff.mp keptAdmitted channel
    have noRoom := not_hasRoom_of_excess keptAdmitted full
    rw [refusedMeant] at noRoom
    rw [Channel.share_eq_map keptMeant] at room noRoom
    rw [fed, taking_eq_put sinks keptMeant]
    apply write_eq_error
    rw [List.map_append, List.map_cons] at bytes
    exact Sink.write_eq_error bytes.symm room noRoom

/-- Writing texts in a row is offering the bytes of all of them. -/
theorem writeAll_eq_feed
    {sinks : Sinks}
    (sound : sinks.Admits [])
    (channel : Channel)
    (texts : List String) :
    sinks.writeAll channel texts =
      sinks.feed (texts.flatMap channel.offers) := by
  induction texts generalizing sinks with
  | nil =>
      rfl
  | cons text rest inductionHypothesis =>
      have first := write_eq_feed sound channel text
      rw [List.flatMap_cons, feed_append, ← first, writeAll,
        List.foldlM_cons]
      cases written : sinks.write channel text with
      | error full =>
          rfl
      | ok grown =>
          have grownSound := feed_sound sound (first.symm.trans written)
          exact inductionHypothesis grownSound

end Sinks

end Report

end IpBlocks
