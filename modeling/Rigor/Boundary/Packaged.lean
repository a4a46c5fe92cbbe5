import Rigor.Registry
import Rigor.Text.Join

/-!
# The packaged boundary patterns

The boundary patterns in force where no others are given.
-/

namespace Rigor.Boundary

/-- One row of the table. -/
def packagedRow (key name description : String) (sample : List (String × Json))
    (expression : String) : Json :=
  .obj [("key", .str key), ("name", .str name), ("description", .str description),
    ("sample", .obj sample), ("schema_expression", .str expression)]

/-- The packaged definition file. -/
def packaged : DefinitionFile :=
  .data (.obj [("patterns", .arr [
    packagedRow "user_input" "User Input" "Form submissions carrying account credentials."
      [("email", .str "user@example.com"), ("password", .str "correct-horse-battery"),
        ("name", .str "Jane Doe")]
      (Text.joinWith "\n"
        ["object(\x7b", "  email: string(format=email),", "  password: string(),",
         "  name: string()", "\x7d).strict()"]),
    packagedRow "pagination" "Pagination" "Query parameters for paged list endpoints."
      [("page", .int 1), ("limit", .int 20), ("sortBy", .str "createdAt"),
        ("sortOrder", .str "desc")]
      (Text.joinWith "\n"
        ["object(\x7b", "  page: number(int=true),", "  limit: number(int=true),",
         "  sortBy: union(string(), undefined()),", "  sortOrder: string()", "\x7d)"]),
    packagedRow "webhook" "Webhook Payload" "Signed event notifications from third-party services."
      [("event", .str "invoice.paid"), ("timestamp", .str "2024-01-15T10:30:00Z"),
        ("payload", .obj []), ("signature", .str "t=1705314600,v1=5257a869")]
      (Text.joinWith "\n"
        ["object(\x7b", "  event: string(),", "  timestamp: string(format=datetime),",
         "  payload: object(\x7b\x7d),", "  signature: union(string(), undefined())", "\x7d)"]),
    packagedRow "file_upload" "File Upload Metadata" "Metadata accompanying an uploaded file."
      [("filename", .str "report.pdf"), ("mimeType", .str "application/pdf"),
        ("size", .int 48213)]
      (Text.joinWith "\n"
        ["object(\x7b", "  filename: string(),", "  mimeType: string(),",
         "  size: number(int=true)", "\x7d)"])])])

end Rigor.Boundary
