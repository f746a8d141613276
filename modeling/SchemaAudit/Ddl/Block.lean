import SchemaAudit.Text.Blank

/-!
The SQL block of a manifest: what stands between the first opening fence and the next fence after it.
-/

namespace SchemaAudit.Ddl

/-- What opens a block. -/
def openingFence : List Char := ['`', '`', '`', 's', 'q', 'l']

/-- What closes a block. -/
def closingFence : List Char := ['`', '`', '`']

/-- The text of the first block without the blanks around it; a text without one has none. -/
def block? (text : List Char) : Option (List Char) := do
  let (_, inner) ← Text.cutAt openingFence text
  let (body, _) ← Text.cutAt closingFence inner
  some (Text.trim body)

end SchemaAudit.Ddl
