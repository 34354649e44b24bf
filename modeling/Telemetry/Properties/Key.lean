import Telemetry.Text.Blank
import Telemetry.Text.Lowercase

/-! # Property keys

A key may be written with dots, with dashes, or as the name of an environment variable. All
spellings have one normal form. -/

namespace Telemetry.Key

open Text

def dotted (c : Char) : Char := if c = '_' ∨ c = '-' then '.' else c

/-- Trimmed, lowercase, with dots between the words. Lowercasing comes before the separators are
unified. -/
def normalChars (cs : List Char) : List Char := (lower (trim cs)).map dotted

def normalize (key : String) : String := String.ofList (normalChars key.toList)

end Telemetry.Key
