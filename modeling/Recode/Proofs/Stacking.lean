import Recode.Proofs.Number.Whole
import Recode.Settings

/-!
# Settings behind settings

A pipeline may feed another one. The track that an encoder produces is then the
source of the next encoder, and the settings of the second are derived from it as
those of the first were from the track in front.

Both ends of this must fit. What a track says is taken over only as far as it is
known, and zero stands for unknown. Settings have a width and a height in any case,
so the second settings take the geometry of the first. They take the frame rate of
the first too, although it goes through a number of single precision on the way,
because such a number was where it came from. There is one exception. A source with
less than half a picture a second is rounded to the rate zero. The first encoder is
opened with it, and the second, to which the rate is unknown now, with the default.

## Main definitions

* `Track.Slow`: The geometry is known and the rate is below one half.

## Theorems

* `Settings.ofTrack_toTrack`: Settings derived from the track of settings.
* `Settings.frameRate_ofTrack`: A derived rate is zero or survives.
* `Settings.ofTrack_toTrack_iff`: Settings behind settings agree but for slow sources.
-/

namespace Recode

/-- Width and height are known, and so is the rate, but it is less than one half: the bits
    of one half are `0x3f000000`, and those of positive numbers below it are smaller. -/
def Track.Slow (t : Track) : Prop :=
  (0 < t.width ∧ 0 < t.height) ∧ 0 < t.rate.bits ∧ t.rate.bits < 0x3f000000

namespace Settings

variable {a b : Codec}

/-- A known geometry is taken over, and so is a rate that is known. -/
theorem ofTrack_of_known (ha : a.isVideo = true) {source : Track} (hwidth : 0 < source.width)
    (hheight : 0 < source.height) :
    (ofTrack a source).width = source.width ∧ (ofTrack a source).height = source.height
      ∧ (ofTrack a source).frameRate
        = if source.rate.isPositive then source.rate.toWord else 25 := by
  have hrate : (ofCodec a).frameRate = 25 := by
    cases a <;> first | rfl | cases ha
  rw [ofTrack, if_pos ⟨ha, hwidth, hheight⟩, hrate]
  exact ⟨rfl, rfl, rfl⟩

/-- Without a known geometry everything is the default. -/
theorem ofTrack_of_unknown (ha : a.isVideo = true) {source : Track}
    (h : ¬ (0 < source.width ∧ 0 < source.height)) :
    (ofTrack a source).width = 1280 ∧ (ofTrack a source).height = 720
      ∧ (ofTrack a source).frameRate = 25 := by
  rw [ofTrack, if_neg (fun hknown => h hknown.2)]
  cases a <;> first | exact ⟨rfl, rfl, rfl⟩ | cases ha

/-- What the second settings take over from settings with a known geometry. -/
theorem ofTrack_toTrack (hb : b.isVideo = true) {s : Settings} (hs : s.codec.isVideo = true)
    (hwidth : 0 < s.width) (hheight : 0 < s.height) :
    (ofTrack b s.toTrack).width = s.width ∧ (ofTrack b s.toTrack).height = s.height
      ∧ (ofTrack b s.toTrack).frameRate
        = if (Binary32.ofWord s.frameRate).isPositive then (Binary32.ofWord s.frameRate).toWord
          else 25 := by
  -- Settings for images announce a track with their geometry and rate.
  have htrack : s.toTrack
      = Track.video s.codec s.width s.height (Binary32.ofWord s.frameRate) := by
    have hvideo : s.trackType = .video := of_decide_eq_true hs
    rw [toTrack, hvideo]
  rw [htrack]
  exact ofTrack_of_known hb hwidth hheight

/-- The geometry of derived settings is always known. -/
theorem pos_ofTrack (ha : a.isVideo = true) (source : Track) :
    0 < (ofTrack a source).width ∧ 0 < (ofTrack a source).height := by
  by_cases hknown : 0 < source.width ∧ 0 < source.height
  · obtain ⟨hwidth, hheight, -⟩ := ofTrack_of_known ha hknown.1 hknown.2
    rw [hwidth, hheight]
    exact hknown
  · obtain ⟨hwidth, hheight, -⟩ := ofTrack_of_unknown ha hknown
    rw [hwidth, hheight]
    decide

/-- A derived rate comes back as it was, or it is the zero that a slow source rounds to. -/
theorem frameRate_ofTrack (ha : a.isVideo = true) (source : Track) :
    (source.Slow → (ofTrack a source).frameRate = 0)
      ∧ (¬ source.Slow → Binary32.Survives (ofTrack a source).frameRate) := by
  have hdefault : Binary32.Survives 25 := Binary32.survives_of_lt (by decide) (by decide)
  by_cases hknown : 0 < source.width ∧ 0 < source.height
  · obtain ⟨-, -, hrate⟩ := ofTrack_of_known ha hknown.1 hknown.2
    -- A slow source is one whose rate is known and rounds to zero.
    have hslow : source.Slow ↔ source.rate.isPositive = true ∧ source.rate.toWord = 0 :=
      (and_iff_right hknown).trans source.rate.rounds_to_zero_iff.symm
    rw [hrate, hslow]
    by_cases hpositive : source.rate.isPositive = true
    · rw [if_pos hpositive]
      refine ⟨fun h => h.2, fun h => ?_⟩
      exact source.rate.survives_toWord.resolve_left fun hzero => h ⟨hpositive, hzero⟩
    · rw [if_neg hpositive]
      exact ⟨fun h => absurd h.1 hpositive, fun _ => hdefault⟩
  · obtain ⟨-, -, hrate⟩ := ofTrack_of_unknown ha hknown
    rw [hrate]
    exact ⟨fun h => absurd h.1 hknown, fun _ => hdefault⟩

/-- Settings derived from the track of derived settings have the same width, height and
    frame rate, for any two video codecs and any source but a slow one. A slow source gives
    the rate zero, and behind it the default. -/
theorem ofTrack_toTrack_iff (ha : a.isVideo = true) (hb : b.isVideo = true) (source : Track) :
    let first := ofTrack a source
    let second := ofTrack b first.toTrack
    second.width = first.width ∧ second.height = first.height
      ∧ (second.frameRate = first.frameRate ↔ ¬ source.Slow)
      ∧ (source.Slow → first.frameRate = 0 ∧ second.frameRate = 25) := by
  intro first second
  have hvideo : first.codec.isVideo = true := by rw [ofTrack_codec, ha]
  obtain ⟨hwidth, hheight⟩ := pos_ofTrack ha source
  obtain ⟨hsame, hsame', hrate⟩ := ofTrack_toTrack hb hvideo hwidth hheight
  obtain ⟨hzero, hsurvives⟩ := frameRate_ofTrack ha source
  -- Behind a slow source the rate is zero, and zero is unknown.
  have hlost (hslow : source.Slow) : first.frameRate = 0 ∧ second.frameRate = 25 := by
    have hnone : (Binary32.ofWord 0).isPositive = false := rfl
    rw [hzero hslow, hnone] at hrate
    exact ⟨hzero hslow, hrate⟩
  refine ⟨hsame, hsame', ⟨fun h hslow => ?_, fun hfast => ?_⟩, hlost⟩
  · obtain ⟨hfirst, hsecond⟩ := hlost hslow
    rw [hfirst, hsecond] at h
    exact absurd h (by decide)
  · -- Any other rate comes back from the track as it was.
    have hback := hsurvives hfast
    rw [Binary32.isPositive_ofWord hback, Binary32.toWord_ofWord hback] at hrate
    exact hrate

/-- At 23.976 pictures a second and at more than any word can hold, the second settings are
    the first; at one picture in four seconds they are not. -/
theorem ofTrack_toTrack_iff_of_three_rates :
    let source (bits : UInt32) : Track := Track.video .h265 640 480 ⟨bits⟩
    let rate (bits : UInt32) : UInt32 := (ofTrack .h264 (source bits)).frameRate
    let next (bits : UInt32) : UInt32 :=
      (ofTrack .h265 (ofTrack .h264 (source bits)).toTrack).frameRate
    rate 0x41bfced9 = 24 ∧ next 0x41bfced9 = rate 0x41bfced9
      ∧ rate 0x7f7fffff = 4294967295 ∧ next 0x7f7fffff = rate 0x7f7fffff
      ∧ rate 0x3e800000 = 0 ∧ next 0x3e800000 = 25 := by
  intro source rate next
  -- From one half on a rate comes back, however large it is.
  have hfast (bits : UInt32) (h : 0x3f000000 ≤ bits) : next bits = rate bits := by
    have hiff := (ofTrack_toTrack_iff (a := .h264) (b := .h265) rfl rfl (source bits)).2.2.1
    exact hiff.mpr fun hslow => absurd hslow.2.2 (UInt32.not_lt.mpr h)
  have hslow : (source 0x3e800000).Slow := ⟨by decide, by decide⟩
  have hlost := (ofTrack_toTrack_iff (a := .h264) (b := .h265) rfl rfl _).2.2.2 hslow
  exact ⟨by decide +kernel, hfast _ (by decide), by decide +kernel, hfast _ (by decide), hlost.1,
    hlost.2⟩

/-- A rate of one picture in four seconds, known in front and unknown behind. -/
theorem frameRate_of_slow_source :
    let first := ofTrack .h265 (Track.video .h264 640 480 ⟨0x3e800000⟩)
    let second := ofTrack .h264 first.toTrack
    first.frameRate = 0 ∧ second.frameRate = 25 ∧ second.frameRate ≠ first.frameRate := by
  decide +kernel

end Settings

end Recode
