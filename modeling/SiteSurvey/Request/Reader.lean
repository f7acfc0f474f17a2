import SiteSurvey.Json.Check
import SiteSurvey.Request.Finding

set_option autoImplicit false

namespace SiteSurvey.Request.Finding

open SiteSurvey.Json

def asEndpoint : Json → Checked (Option Text)
  | .null => .ok none
  | v => (asText v).map some

/-- The finding that a value describes. Two of the members go by either of two names. -/
def ofJson (v : Json) : Checked Finding :=
  match asMembers v with
  | .error issues => .error issues
  | .ok members =>
      let parts :=
        (field members ["file"] none asText).both <|
        (field members ["method"] none asText).both <|
        (field members ["endpoint"] (some none) asEndpoint).both <|
        (field members ["bodyParams", "body_params"] (some []) (asList asText)).both <|
        (field members ["bodyType", "body_type"] (some .unknown) (asNamed Encoding.ofName?)).both <|
        field members ["confidence"] none (asNamed Confidence.ofName?)
      parts.map fun (file, method, endpoint, params, encoding, confidence) =>
        { file, method, endpoint, params, encoding, confidence }

end SiteSurvey.Request.Finding
