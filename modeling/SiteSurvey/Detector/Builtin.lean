import SiteSurvey.Detector.Basic

set_option autoImplicit false

namespace SiteSurvey.Detector

def builtinSources : List (String × String) :=
  [("api_keys.py",
    "(?i)\\b[\\w$]*(?:api[_-]?key|apikey|secret|token|passw(?:or)?d|auth)[\\w$]*" ++
      "['\"]?\\s*[:=]\\s*['\"`]([A-Za-z0-9_\\-./+=]\x7b8,\x7d)['\"`]"),
   ("api_paths.py",
    "['\"`](/(?:api|graphql|rest|v[0-9]+|admin|internal|auth|oauth)" ++
      "(?:/[\\w\\-.\x7b\x7d:$]*)*)['\"`]"),
   ("aws_keys.py", "\\b(?:AKIA|ASIA|AGPA|AIDA|AROA)[0-9A-Z]\x7b16\x7d\\b"),
   ("errors.py",
    "(?:throw\\s+new\\s+Error|console\\.error)\\s*\\(\\s*['\"`](.*?)['\"`]\\s*\\)"),
   ("google_api_keys.py", "\\bAIza[0-9A-Za-z_\\-]\x7b35\x7d\\b"),
   ("jwt.py",
    "\\beyJ[A-Za-z0-9_-]\x7b10,\x7d\\.eyJ[A-Za-z0-9_-]\x7b10,\x7d\\.[A-Za-z0-9_-]\x7b10,\x7d"),
   ("private_keys.py",
    "-----BEGIN (?:RSA |EC |DSA |OPENSSH |ENCRYPTED )?PRIVATE KEY-----"),
   ("urls.py", "https?://[^\\s\"'`<>()\\\\]+")]

def builtin : List Detector :=
  builtinSources.filterMap fun (name, source) => (make name (.text source)).toOption

end SiteSurvey.Detector
