import Recode.Proofs.Loopback.Machine
import Recode.Proofs.Staged

/-!
# Nothing gets lost

The loopback engine passes payloads on, so a stream that has run through it can be
compared with what was put in. Decoder and encoder keep frames back in delay lines of
any length, pictures may or may not be converted on their way, and damaged frames are
dropped. Still every other frame arrives once, in order and with its own times.

The argument is one of conservation. For each of the two contexts, what has come out
and what its delay line would still yield are together what was accepted
(`Decoder.decodeStep_conserves`, `Encoder.encodeStep_conserves`). The rest that is left
at the end of a pass is what draining yields.

Between the two a picture may be relabelled. Of a picture the encoder only takes the
data and the times, its `essence`, and those no conversion touches.

## Main definitions

* `Loopback.Encoder.headed`: The packets an encoder makes of what it was given.
* `Loopback.essence`: What an encoder takes of a picture.
* `Loopback.delivered`: What should arrive of a stream.

## Theorems

* `DelayLine.push_conserves`: A delay line loses nothing.
* `Loopback.decodeAll_eq`, `Loopback.map_essence_convertAll`, `Loopback.encodeAll_eq`:
  What the three passes make of a stream.
* `Loopback.staged_eq_delivered`: What arrives of a stream.
-/

namespace Recode

namespace DelayLine

variable {α : Type}

/-- What comes out of a delay line and what it holds then is what it held and the new entry, in
    that order. -/
theorem push_conserves (a : α) (l : DelayLine α) :
    (l.push a).1.toList ++ (l.push a).2.waiting = l.waiting ++ [a] := by
  rcases l with ⟨delay, waiting, ended⟩
  unfold push
  -- Either the line has room for one more, or its oldest entry falls out.
  by_cases hroom : waiting.length < delay
  · rw [if_pos hroom]
    rfl
  · rw [if_neg hroom]
    rcases waiting with _ | ⟨oldest, rest⟩ <;> rfl

theorem push_ended (a : α) (l : DelayLine α) : (l.push a).2.ended = l.ended := by
  rcases l with ⟨delay, waiting, ended⟩
  unfold push
  by_cases hroom : waiting.length < delay
  · rw [if_pos hroom]
  · rw [if_neg hroom]
    rcases waiting with _ | ⟨oldest, rest⟩ <;> rfl

end DelayLine

namespace Loopback

/-! ## Decoding -/

namespace Decoder

/-- The picture that a decoder makes of a packet. -/
def shown (d : Decoder) (packet : Packet) : Picture Bytes := d.present packet (.blank [])

/-- What a decoder takes of a frame: everything, unless it is damaged. -/
def accept (unit : AccessUnit) : List Packet :=
  if unit.data = corrupt then [] else [⟨unit.data, unit.dts, unit.pts⟩]

theorem decodeStep_eq (setup : Setup) (d : Decoder) (unit : AccessUnit) :
    (machine setup).decodeStep d unit
      = let decoded := d.feed ⟨unit.data, unit.dts, unit.pts⟩ (.blank [])
        (yielded decoded.answer.1, decoded.context) := rfl

/-- A damaged frame yields nothing and leaves the decoder as it is. -/
theorem decodeStep_corrupt (setup : Setup) {d : Decoder} {unit : AccessUnit}
    (hd : d.line.ended = false) (hcorrupt : unit.data = corrupt) :
    (machine setup).decodeStep d unit = (none, d) := by
  rw [decodeStep_eq, feed, hd, hcorrupt]
  rfl

/-- A sound frame goes into the delay line, and whatever falls out is shown. -/
theorem decodeStep_push (setup : Setup) {d : Decoder} {unit : AccessUnit}
    (hd : d.line.ended = false) (hcorrupt : unit.data ≠ corrupt) :
    (machine setup).decodeStep d unit
      = let (due?, line) := d.line.push ⟨unit.data, unit.dts, unit.pts⟩
        (due?.map d.shown, { d with line }) := by
  rw [decodeStep_eq, feed, hd, if_neg Bool.false_ne_true, if_neg hcorrupt]
  rcases DelayLine.push (Packet.mk unit.data unit.dts unit.pts) d.line with ⟨_ | due, line⟩ <;> rfl

/-- A step neither loses nor makes up a picture, whatever comes afterwards. -/
theorem decodeStep_conserves (setup : Setup) (d : Decoder) (unit : AccessUnit)
    (hd : d.line.ended = false) :
    let r := (machine setup).decodeStep d unit
    r.2.line.ended = false ∧ ∀ rest,
      r.1.toList ++ (r.2.line.waiting ++ rest).map r.2.shown
        = (d.line.waiting ++ (accept unit ++ rest)).map d.shown := by
  intro r
  by_cases hcorrupt : unit.data = corrupt
  · -- A damaged frame is neither accepted nor kept.
    have hr : r = (none, d) := decodeStep_corrupt setup hd hcorrupt
    rw [hr, accept, if_pos hcorrupt]
    exact ⟨hd, fun rest => rfl⟩
  · have hr : r = _ := decodeStep_push setup hd hcorrupt
    rw [hr, accept, if_neg hcorrupt]
    refine ⟨(DelayLine.push_ended _ _).trans hd, fun rest => ?_⟩
    -- Over the delay line both sides hold the same packets, and they are shown alike.
    rw [← List.append_assoc, ← DelayLine.push_conserves]
    rcases DelayLine.push (Packet.mk unit.data unit.dts unit.pts) d.line with
      ⟨_ | due, line⟩ <;> rfl

/-- Draining a decoder yields what its delay line still holds. -/
theorem drainedPictures_eq (setup : Setup) (d : Decoder) :
    (machine setup).drainedPictures d = d.line.waiting.map d.shown := by
  rcases d with ⟨kind, track, output, delay, waiting, ended⟩
  -- The first pull marks the line as ended, so the induction is for either mark.
  induction waiting generalizing ended with
  | nil => rw [Machine.drainedPictures]; rfl
  | cons oldest rest ih =>
      rw [Machine.drainedPictures]
      exact congrArg _ (ih true)

end Decoder

/-- All that was accepted is shown: what the line held before and then the frames. -/
theorem decodeAll_eq (setup : Setup) (d : Decoder) (hd : d.line.ended = false)
    (units : List AccessUnit) :
    (machine setup).decodeAll d units
      = (d.line.waiting ++ units.flatMap Decoder.accept).map d.shown := by
  have hpass := pass_conserves (fun d : Decoder => d.line.waiting)
    (fun d packets => packets.map d.shown) (fun d => d.line.ended = false) (fun _ => True)
    (fun d unit hd _ => Decoder.decodeStep_conserves setup d unit hd) d hd units
    (fun _ _ => trivial)
  -- Nothing follows the stream, and what the line holds is what draining yields.
  have hall := hpass.2 []
  rw [List.append_nil, List.append_nil, ← Decoder.drainedPictures_eq setup] at hall
  exact hall

/-! ## Encoding -/

namespace Encoder

/-- The packets that an encoder makes of what it was given: each behind a header, only
    the first of a stream behind that of a picture that can be decoded on its own. -/
def headed (kind : TrackType) : Bool → List EncodedPacket → List EncodedPacket
  | _, [] => []
  | begun, packet :: packets =>
    { packet with data := header kind begun ++ packet.data } :: headed kind true packets

/-- What an encoder takes of what it is given: everything, unless it is damaged. -/
def accept (packet : EncodedPacket) : List EncodedPacket :=
  if packet.data = corrupt then [] else [packet]

end Encoder

/-- What an encoder takes of a picture. -/
def essence (picture : Picture Bytes) : EncodedPacket :=
  ⟨picture.store, picture.pts, picture.dts⟩

/-- A packet that has its times, and does not need those of the picture in front. -/
def Timed (packet : EncodedPacket) : Prop := packet.pts.isSome ∧ packet.dts.isSome

namespace Encoder

variable {s : EncodeStage backend}

/-- A packet that has its times is not given those of a picture. -/
theorem unitOf_timed {packet : EncodedPacket} (h : Timed packet) (pts dts : Option Int64) :
    s.unitOf packet pts dts = s.unitOf packet none none := by
  rcases packet with ⟨data, _ | pts, _ | dts⟩
  · cases h.1
  · cases h.1
  · cases h.2
  · rfl

theorem encodeStep_eq (setup : Setup) (s : EncodeStage backend) (e : Encoder)
    (picture : Picture Bytes) :
    (machine setup).encodeStep s e picture
      = let encoded := e.feed picture
        ((yielded encoded.outcome).map (s.unitOf · picture.pts picture.dts), encoded.context) := rfl

theorem encodeStep_corrupt (setup : Setup) {e : Encoder} {picture : Picture Bytes}
    (he : e.line.ended = false) (hcorrupt : picture.store = corrupt) :
    (machine setup).encodeStep s e picture = (none, e) := by
  rw [encodeStep_eq, feed, he, hcorrupt]
  rfl

/-- A sound picture goes into the delay line, and whatever falls out is put behind a header. -/
theorem encodeStep_push (setup : Setup) {e : Encoder} {picture : Picture Bytes}
    (he : e.line.ended = false) (hcorrupt : picture.store ≠ corrupt) :
    (machine setup).encodeStep s e picture
      = match e.line.push (essence picture) with
        | (some due, line) => (some (s.unitOf (e.packetOf due) picture.pts picture.dts),
            { e with line, begun := true })
        | (none, line) => (none, { e with line }) := by
  rw [encodeStep_eq, feed, he, if_neg Bool.false_ne_true, if_neg hcorrupt, essence]
  rcases DelayLine.push (EncodedPacket.mk picture.store picture.pts picture.dts) e.line with
    ⟨_ | due, line⟩ <;> rfl

/-- A step neither loses nor makes up a packet, whatever comes afterwards. Packets keep their own
    times, since none without times ever waits. -/
theorem encodeStep_conserves (setup : Setup) (s : EncodeStage backend) (e : Encoder)
    (picture : Picture Bytes) (he : e.line.ended = false ∧ ∀ packet ∈ e.line.waiting, Timed packet)
    (hpicture : Timed (essence picture)) :
    let r := (machine setup).encodeStep s e picture
    (r.2.line.ended = false ∧ ∀ packet ∈ r.2.line.waiting, Timed packet) ∧ ∀ rest,
      r.1.toList ++ (headed r.2.kind r.2.begun (r.2.line.waiting ++ rest)).map
            (s.unitOf · none none)
        = (headed e.kind e.begun (e.line.waiting ++ (accept (essence picture) ++ rest))).map
            (s.unitOf · none none) := by
  rcases he with ⟨hended, htimed⟩
  intro r
  by_cases hcorrupt : picture.store = corrupt
  · -- A damaged picture is neither accepted nor kept.
    have hr : r = (none, e) := encodeStep_corrupt setup hended hcorrupt
    have haccept : accept (essence picture) = [] := if_pos hcorrupt
    rw [hr, haccept]
    exact ⟨⟨hended, htimed⟩, fun rest => rfl⟩
  · have hr : r = _ := encodeStep_push setup hended hcorrupt
    have haccept : accept (essence picture) = [essence picture] := if_neg hcorrupt
    have hline := DelayLine.push_conserves (essence picture) e.line
    have hended' := (DelayLine.push_ended (essence picture) e.line).trans hended
    have htimed' : ∀ packet ∈ e.line.waiting ++ [essence picture], Timed packet :=
      List.forall_mem_append.mpr
        ⟨htimed, fun packet hmem => List.mem_singleton.mp hmem ▸ hpicture⟩
    rw [hr, haccept]
    rcases hpush : DelayLine.push (essence picture) e.line with ⟨_ | due, line⟩
    · -- The line had room, so nothing comes out and the packet waits.
      rw [hpush] at hline hended'
      rw [← hline] at htimed'
      refine ⟨⟨hended', htimed'⟩, fun rest => ?_⟩
      rw [← List.append_assoc e.line.waiting, ← hline]
      rfl
    · -- The packet that comes out now has no use for the times of the picture in front.
      rw [hpush] at hline hended'
      rw [← hline] at htimed'
      rcases List.forall_mem_cons.mp htimed' with ⟨hdue, htimed'⟩
      refine ⟨⟨hended', htimed'⟩, fun rest => ?_⟩
      rw [← List.append_assoc e.line.waiting, ← hline]
      have hheaded : Timed (e.packetOf due) := hdue
      simp only [unitOf_timed hheaded]
      rfl

/-- Draining an encoder yields what its delay line still holds. -/
theorem drainedPackets_eq (setup : Setup) (e : Encoder) :
    (machine setup).drainedPackets e = headed e.kind e.begun e.line.waiting := by
  rcases e with ⟨kind, formats, ⟨delay, waiting, ended⟩, begun⟩
  -- Every packet but the first is behind another header, so the induction is for either one.
  induction waiting generalizing ended begun with
  | nil => rw [Machine.drainedPackets]; rfl
  | cons oldest rest ih =>
      rw [Machine.drainedPackets]
      exact congrArg _ (ih true true)

end Encoder

/-- A new encoder makes a frame of every sound picture, each behind its header. -/
theorem encodeAll_eq (setup : Setup) (s : EncodeStage backend)
    (hended : s.context.line.ended = false) (hnew : s.context.line.waiting = [])
    (pictures : List (Picture Bytes)) (htimed : ∀ picture ∈ pictures, Timed (essence picture)) :
    (machine setup).encodeAll s pictures
      = (Encoder.headed s.context.kind s.context.begun
          (pictures.flatMap fun picture => Encoder.accept (essence picture))).map
          (s.unitOf · none none) := by
  -- An empty line holds no packet without times.
  have hvalid : ∀ packet ∈ s.context.line.waiting, Timed packet := by
    rw [hnew]
    exact fun packet hmem => absurd hmem List.not_mem_nil
  have hpass := pass_conserves (fun e : Encoder => e.line.waiting)
    (fun e packets => (Encoder.headed e.kind e.begun packets).map (s.unitOf · none none))
    (fun e => e.line.ended = false ∧ ∀ packet ∈ e.line.waiting, Timed packet)
    (fun picture => Timed (essence picture)) (Encoder.encodeStep_conserves setup s) s.context
    ⟨hended, hvalid⟩ pictures htimed
  have hall := hpass.2 []
  rw [List.append_nil, List.append_nil, hnew, ← Encoder.drainedPackets_eq setup] at hall
  exact hall

/-! ## Conversion -/

/-- However a picture is converted, or not, its data and its times stay. -/
theorem essence_convertStep (setup : Setup) (target : PixelFormat) (conversion : Conversion backend)
    (picture : Picture Bytes) :
    essence ((machine setup).convertStep target conversion picture).1 = essence picture := by
  unfold Machine.convertStep
  cases picture.geometry? with
  | none => rfl
  | some geometry =>
      by_cases hsame : geometry.format = target
      · simp only [if_pos hsame]
      · simp only [if_neg hsame]
        cases (machine setup).prepare target geometry conversion <;> rfl

theorem map_essence_throughConverter (setup : Setup) (target : PixelFormat)
    (conversion : Conversion backend) (pictures : List (Picture Bytes)) :
    ((machine setup).throughConverter target conversion pictures).map essence
      = pictures.map essence := by
  induction pictures generalizing conversion with
  | nil => rfl
  | cons picture pictures ih =>
      rw [Machine.throughConverter, List.map_cons, List.map_cons, essence_convertStep, ih]

/-- The second pass keeps every image that has a format, and all sound. -/
theorem map_essence_convertAll (setup : Setup) (s : EncodeStage backend)
    (pictures : List (Picture Bytes))
    (hpixel : s.trackType = .video → ∀ picture ∈ pictures, picture.pixel.isSome) :
    ((machine setup).convertAll s pictures).map essence = pictures.map essence := by
  unfold Machine.convertAll
  cases hkind : s.trackType with
  | audio => rfl
  | video =>
      -- All of them have a format, so none is left out.
      have hall : (pictures.filter fun picture => picture.pixel.isSome) = pictures :=
        List.filter_eq_self.mpr (hpixel hkind)
      rw [hall]
      rcases pictures with _ | ⟨picture, pictures⟩
      · rfl
      · rcases Option.isSome_iff_exists.mp (hpixel hkind picture (List.mem_cons_self ..)) with
          ⟨incoming, hincoming⟩
        simp only [List.head?_cons, Option.bind_some, hincoming]
        exact map_essence_throughConverter setup _ .idle (picture :: pictures)

/-! ## All three passes -/

/-- What a frame looks like to the encoder. -/
def timed (unit : AccessUnit) : EncodedPacket := ⟨unit.data, some unit.pts, some unit.dts⟩

/-- What should arrive of a stream: every frame that is not damaged, in order, in the
    target codec, with its own times and its payload behind the header of its kind. -/
def delivered (kind : TrackType) (target : Codec) (units : List AccessUnit) : List AccessUnit :=
  (units.filter fun unit => unit.data ≠ corrupt).mapIdx fun i unit =>
    { codec := target
      dts := unit.dts
      pts := unit.pts
      data := Encoder.header kind (i != 0) ++ unit.data }

theorem essence_shown (d : Decoder) (unit : AccessUnit) :
    essence (d.shown ⟨unit.data, unit.dts, unit.pts⟩) = timed unit := by
  unfold Decoder.shown Decoder.present Track.present
  cases d.kind <;> rfl

theorem pixel_shown {d : Decoder} (hkind : d.kind = .video) (packet : Packet) :
    (d.shown packet).pixel.isSome := by
  unfold Decoder.shown Decoder.present Track.present
  rw [hkind]
  rfl

/-- To the encoder, the shown pictures look like the frames that are not damaged. -/
theorem map_essence_shown (d : Decoder) (units : List AccessUnit) :
    ((units.flatMap Decoder.accept).map d.shown).map essence
      = (units.filter fun unit => unit.data ≠ corrupt).map timed := by
  induction units with
  | nil => rfl
  | cons unit units ih =>
      rw [List.flatMap_cons, List.map_append, List.map_append, ih]
      -- Damaged frames are left out on either side.
      by_cases hcorrupt : unit.data = corrupt
      · rw [List.filter_cons_of_neg (by simp [hcorrupt]), Decoder.accept, if_pos hcorrupt]
        rfl
      · rw [List.filter_cons_of_pos (by simp [hcorrupt]), Decoder.accept, if_neg hcorrupt,
          List.map_cons, List.map_cons, essence_shown]
        rfl

theorem flatMap_accept_eq {packets : List EncodedPacket}
    (h : ∀ packet ∈ packets, packet.data ≠ corrupt) : packets.flatMap Encoder.accept = packets := by
  induction packets with
  | nil => rfl
  | cons packet packets ih =>
      rcases List.forall_mem_cons.mp h with ⟨hpacket, hpackets⟩
      rw [List.flatMap_cons, ih hpackets, Encoder.accept, if_neg hpacket]
      rfl

/-- Frames made of packets with times keep these, and the header goes by the position. -/
theorem headed_timed (s : EncodeStage backend) (kind : TrackType) (begun : Bool)
    (units : List AccessUnit) :
    (Encoder.headed kind begun (units.map timed)).map (s.unitOf · none none)
      = units.mapIdx fun i unit =>
          { codec := s.codec
            dts := unit.dts
            pts := unit.pts
            data := Encoder.header kind (begun || i != 0) ++ unit.data } := by
  induction units generalizing begun with
  | nil => rfl
  | cons unit units ih =>
      rw [List.map_cons, List.mapIdx_cons, Encoder.headed, List.map_cons, ih]
      refine List.cons_eq_cons.mpr ⟨?_, ?_⟩
      · have hfirst : (begun || 0 != 0) = begun := by cases begun <;> rfl
        rw [hfirst]
        rfl
      · -- Once something has come out, the position makes no difference.
        have hlater : ∀ i : Nat, (begun || i + 1 != 0) = (true || i != 0) := by
          intro i
          cases begun <;> rfl
        simp only [hlater]

/-- What the three passes make of a stream. -/
theorem staged_eq_delivered (setup : Setup) (c : Chain backend) (kind : TrackType)
    (hdecode : c.decode.context.kind = kind) (hencode : c.encode.context.kind = kind)
    (hkind : c.encode.trackType = kind)
    (hempty : c.decode.context.line.waiting = [] ∧ c.decode.context.line.ended = false)
    (hnew : c.encode.context.line.waiting = [] ∧ c.encode.context.line.ended = false)
    (hbegun : c.encode.context.begun = false) (units : List AccessUnit) :
    (machine setup).staged c units = delivered kind c.encode.codec units := by
  -- The decoder is new, so it shows the frames of the stream and nothing before.
  have hdecoded := decodeAll_eq setup c.decode.context hempty.2 units
  rw [hempty.1, List.nil_append] at hdecoded
  have hpixel : c.encode.trackType = .video →
      ∀ picture ∈ (machine setup).decodeAll c.decode.context units, picture.pixel.isSome := by
    intro hvideo
    rw [hdecoded]
    intro picture hmem
    rcases List.mem_map.mp hmem with ⟨packet, -, rfl⟩
    exact pixel_shown (hdecode.trans (hkind.symm.trans hvideo)) packet
  -- The encoder is given all decoded pictures, up to what it does not look at.
  have hconverted := map_essence_convertAll setup c.encode _ hpixel
  rw [hdecoded, map_essence_shown] at hconverted
  -- What was shown has the times of its frame, and conversion keeps them.
  have htimed : ∀ picture ∈ (machine setup).convertAll c.encode
      ((machine setup).decodeAll c.decode.context units), Timed (essence picture) := by
    rw [hdecoded, ← List.forall_mem_map, hconverted, List.forall_mem_map]
    exact fun unit _ => ⟨rfl, rfl⟩
  have hsound : ∀ packet ∈ (units.filter fun unit => unit.data ≠ corrupt).map timed,
      packet.data ≠ corrupt := by
    rw [List.forall_mem_map]
    exact fun unit hmem => of_decide_eq_true (List.mem_filter.mp hmem).2
  rw [Machine.staged, encodeAll_eq setup c.encode hnew.2 hnew.1 _ htimed, ← List.flatMap_map,
    hdecoded, hconverted, flatMap_accept_eq hsound, hencode, hbegun, headed_timed]
  rfl

open Transcoder in
/-- Nothing gets lost. Whatever the delays, the formats and the conversions that are
    refused, take a track that is not in the target codec and that can be added, and a
    sink that refuses nothing. Adding the track, putting in its frames one by one and
    flushing tells the sink of the track the encoder writes and then of every frame that
    is not damaged, once and in order. Nothing ends in a fault. -/
theorem run_delivers (setup : Setup) (config : Config) (start : Transcoder backend)
    (hstart : ofConfig config = .ok start) {ρ : Type} (sink : Sink (ρ × Tally))
    (hsink : sink.Accepts) (track : Track) (hdiffers : track.codec ≠ config.target track.trackType)
    (w : ρ × Tally)
    (hadded : (start.addTrack (engine setup).onSecond sink track w).value.1 = .ok ())
    (units : List AccessUnit) (hunits : ∀ unit ∈ units, unit.codec = track.codec) :
    let e := (engine setup).onSecond
    let target := config.target track.trackType
    let ops := .addTrack track :: (units.map .inputFrame ++ [.flush])
    let alone := start.run e sink ops w
    start.run e.onSecond sink.observed ops ([], w)
      = ⟨alone.value, alone.notes, (.addTrack (Settings.ofTrack target track).toTrack (.ok ())
          :: (delivered track.trackType target units).map fun unit => .inputFrame unit (.ok ()),
          alone.world)⟩
      ∧ ∀ outcome ∈ alone.value.1, outcome = .ok () := by
  rcases ofConfig_ok hstart with ⟨rfl, hlanes⟩
  -- The track could be added, so a chain was opened and stays.
  rcases build_of_addTrack hdiffers hadded with ⟨c, hopen⟩
  have hrun := run_opened (engine_realizes setup).onSecond hsink hlanes hdiffers hopen hunits
  -- Both contexts are new, so their lines are empty and nothing has been encoded yet.
  have hsettings := (Chain.codecs_of_build hopen).2
  rcases contexts_of_build hopen with ⟨hdecoder, hencoder⟩
  have hcodec : c.encode.codec = start.config.target track.trackType := by
    rw [EncodeStage.codec, hsettings, Settings.ofTrack_codec]
    rfl
  have hkind : c.encode.trackType = track.trackType := by
    rw [EncodeStage.trackType, Settings.trackType]
    exact (congrArg Codec.trackType hcodec).trans (Config.target_trackType start.usable _)
  have hencodes : c.encode.context.kind = track.trackType := by
    rw [hencoder, ← hsettings]
    exact hkind
  have hdelivered := staged_eq_delivered setup c track.trackType (by rw [hdecoder]) hencodes
    hkind (by rw [hdecoder]; exact ⟨rfl, rfl⟩) (by rw [hencoder]; exact ⟨rfl, rfl⟩)
    (by rw [hencoder]) units
  rw [hdelivered, hsettings, hcodec] at hrun
  exact hrun

open Transcoder in
/-- Three frames, one of them damaged, through delays longer than the stream and past a
    conversion that is refused. -/
theorem run_delivers_behind_long_delays :
    let setup : Setup :=
      { decoderDelay := 2, encoderDelay := 3, decoderOutput := .nv12
        rejectedConversions := [.nv12] }
    let e := (engine setup).onSecond (ρ := Unit)
    let start : Transcoder backend := { config := .default, usable := rfl, lanes := ⟨none, none⟩ }
    let track := Track.video .h265 640 480 ⟨0⟩
    let units : List AccessUnit :=
      [⟨.h265, 0, 0, [1]⟩, ⟨.h265, 40, 40, corrupt⟩, ⟨.h265, 80, 120, [2]⟩]
    let ops := .addTrack track :: (units.map .inputFrame ++ [.flush])
    (start.addTrack e .noting track ((), {})).value.1 = .ok ()
      ∧ (start.run e.onSecond Sink.noting.observed ops ([], (), {})).world.1
        = [.addTrack (Settings.ofTrack .h264 track).toTrack (.ok ()),
            .inputFrame ⟨.h264, 0, 0, [0, 0, 0, 1, 0x65, 1]⟩ (.ok ()),
            .inputFrame ⟨.h264, 80, 120, [0, 0, 0, 1, 0x41, 2]⟩ (.ok ())] := by
  intro setup e start track units ops
  have hadded : (start.addTrack e .noting track ((), {})).value.1 = .ok () := rfl
  -- What arrives is given by the theorem, and does not depend on the delays.
  have hrun := run_delivers setup .default start rfl .noting ⟨fun _ _ => rfl, fun _ _ => rfl⟩ track
    (by decide) ((), {}) hadded units (by decide)
  refine ⟨hadded, ?_⟩
  rw [hrun.1]
  rfl

end Loopback

end Recode
