import Utterance.Text.Encoding.Decode
import Utterance.Text.Encoding.Encode

/-!
# The encodings of a small machine

A machine that knows the encodings of this library and no others. Of the Japanese set it has only kana.
-/

namespace Utterance
set_option autoImplicit false

/-- An encoding as a codec. -/
def Text.Encoding.codec (encoding : Text.Encoding) : Text.Codec where
  decode bytes := (encoding.decode bytes).mapError fun fault => .undecodable fault.message
  encode text := (encoding.encode text).mapError fun fault => .other "unencodable" fault.message

namespace Workstation

scoped instance codecs : Text.Codecs where
  find name :=
    match Text.Encoding.ofName name with
    | .ok encoding => .ok encoding.codec
    | .error fault => .error (.other "unknown encoding" fault.message)

end Workstation

end Utterance
