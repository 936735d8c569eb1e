import TransformPreset.Number.Leading
import TransformPreset.Trace

/-!
# The running runtime

The version of the runtime that is running, from what it answers when asked for it. The answer is
trimmed, letters `v` before the version are dropped, and the number at its start is the version.
-/

namespace TransformPreset

/-- What asking the runtime for its version comes to. -/
inductive RuntimeReply
  /-- There is no runtime. -/
  | missing
  /-- The system refuses to start it. -/
  | refused (fault : SystemFault)
  /-- It could not be asked. -/
  | failed (fault : RuntimeFault)
  /-- It printed bytes that are no text. -/
  | undecodable
  /-- It printed a text. -/
  | printed (text : String)
deriving DecidableEq

/-- The path of the runtime. -/
def runtimePath : String := "/usr/bin/node"

/-- The number at the start of a text, if there is one. -/
def leadingFloat (text : List Char) : Except Failure (Option Binary64) :=
  match leadingFloat? text with
  | none => .ok none
  | some start =>
    match readFloat? start with
    | some x => .ok (some x)
    | none => .error (.floatUnreadable (String.ofList start))

/-- The version that the runtime reports. -/
def runtimeVersion : RuntimeReply → Traced Binary64
  | .missing => Traced.fail .runtimeMissing
  | .refused fault => Traced.fail (.pathRefused fault runtimePath)
  | .failed fault => Traced.fail (.runtimeUnreadable fault)
  | .undecodable => Traced.fail .notUtf8
  | .printed text => do
    let trimmed := trim text.toList
    -- The version may stand after a letter, as in `v18.17.1`.
    let reported := trimmed.dropWhile (· == 'v')
    match ← Traced.of (leadingFloat reported) with
    | none => Traced.fail (.runtimeVersionUnreadable (String.ofList trimmed))
    | some version => do
      Traced.log .debug .releases ("Detected node " ++ String.ofList reported)
      return version

end TransformPreset
