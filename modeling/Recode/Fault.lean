import Recode.Codec

/-!
# What can go wrong

A cause comes from outside, from the engine or from the sink, as a chain of
texts: the outermost says what failed and each further one why. A fault is what
the pipeline itself reports. It names the codec concerned and, where something
outside is to blame, carries the cause.

The message of a fault quotes only the outermost text of its cause; the chain
itself stays available for whoever looks further.

## Main definitions

* `Cause`: A chain of texts.
* `Fault`: What the pipeline reports.
* `Fault.message`: The fault in words.
* `Fault.sources`: The chain behind a fault.
-/

namespace Recode

/-- Why something outside the pipeline failed: an outermost text and the texts
    beneath it. -/
structure Cause where
  text : String
  beneath : List String := []
deriving DecidableEq, Repr

/-- All texts of a cause, outermost first. -/
def Cause.texts (c : Cause) : List String := c.text :: c.beneath

/-- A cause with the given texts, outermost first; without any it says nothing. -/
def Cause.ofTexts : List String → Cause
  | [] => ⟨"", []⟩
  | text :: beneath => ⟨text, beneath⟩

/-- What the pipeline reports. -/
inductive Fault where
  /-- The engine knows no decoder for the codec. -/
  | decoderUnavailable (codec : Codec)
  /-- Every decoder the engine knows failed to open, this one last. -/
  | decoderInitFailed (codec : Codec) (implementation : String) (cause : Cause)
  /-- The engine knows no encoder for the codec. -/
  | encoderUnavailable (codec : Codec)
  /-- Every encoder the engine knows failed to open, this one last, or the one that
      opened is of no use. -/
  | encoderInitFailed (codec : Codec) (implementation : String) (cause : Cause)
  /-- A frame reached an encoder of the other kind of stream. -/
  | trackTypeMismatch (expected found : TrackType)
  /-- A frame came before a track of its codec. -/
  | trackNotReady (codec : Codec)
  /-- The configuration cannot be used. -/
  | invalidConfig (reason : String)
  /-- The sink refused a call. -/
  | sink (cause : Cause)
deriving DecidableEq, Repr

namespace Fault

/-- The fault in words. -/
def message : Fault → String
  | decoderUnavailable codec => "no decoder found for " ++ codec.name
  | decoderInitFailed codec implementation cause =>
    "failed to open " ++ codec.name ++ " decoder " ++ implementation ++ ": " ++ cause.text
  | encoderUnavailable codec => "no encoder found for " ++ codec.name
  | encoderInitFailed codec implementation cause =>
    "failed to open " ++ codec.name ++ " encoder " ++ implementation ++ ": " ++ cause.text
  | trackTypeMismatch expected found =>
    found.name ++ " frame routed to a " ++ expected.name ++ " encoder"
  | trackNotReady codec => codec.name ++ " frame received before its track was added"
  | invalidConfig reason => "invalid config: " ++ reason
  | sink cause => "sink error: " ++ cause.text

/-- The chain of texts behind a fault, empty if the fault is the pipeline's own. -/
def sources : Fault → List String
  | decoderInitFailed _ _ cause => cause.texts
  | encoderInitFailed _ _ cause => cause.texts
  | sink cause => cause.texts
  | _ => []

end Fault

end Recode
