import VulnScanner.Payload.Catalog

/-!
# The bundled catalog

The definitions that a scanner has without any further file: requests that reach the callback server
or a known missing page, and commands that print a random token between two marks.
-/

namespace VulnScanner.PayloadCatalog

/-- The expression for what a command has printed between the two marks. -/
def printedRegex : String := "(?s).*PAYLOAD_START$TOKEN_RANDOMPAYLOAD_END.*"

/-- A command in some language that prints the token between the two marks. -/
def printing (name : String) (language : InterpretationEnvironment) (template : String) :
    PayloadDefinition where
  name := name
  interpretation := language
  execution := .interpretation
  usesCallback := false
  template := template
  validation := .regex
  regex := some printedRegex
  vulnerabilities := [.reflectiveRce]

/-- The bundled catalog. -/
def bundled : PayloadCatalog where
  payloads :=
    [{ name := "general_ssrf_callback"
       interpretation := .any
       execution := .any
       usesCallback := true
       template := "$TOKEN_URL"
       validation := .callback
       regex := none
       vulnerabilities := [.ssrf] },
     { name := "general_ssrf_no_callback"
       interpretation := .any
       execution := .any
       usesCallback := false
       template := "http://google.com/page-does-not-exist"
       validation := .regex
       regex := some "(?s).*Error 404 \\(Not Found\\)!!1.*"
       vulnerabilities := [.ssrf] },
     { name := "linux_callback"
       interpretation := .linuxShell
       execution := .interpretation
       usesCallback := true
       template := "curl $TOKEN_URL"
       validation := .callback
       regex := none
       vulnerabilities := [.reflectiveRce, .blindRce] },
     printing "linux_printf" .linuxShell "printf %s%s%s PAYLOAD_START $TOKEN_RANDOM PAYLOAD_END",
     printing "java_string_format" .java
       "String.format(\"%s%s%s\", \"PAYLOAD_START\", \"$TOKEN_RANDOM\", \"PAYLOAD_END\")",
     printing "python_print" .python
       "print(\"%s%s%s\" % (\"PAYLOAD_START\", \"$TOKEN_RANDOM\", \"PAYLOAD_END\"))"]

/-- The lines of the file with the bundled catalog. -/
def bundledLines : List String :=
  ["# 페이로드 템플릿 카탈로그.",
   "# $TOKEN_URL은 콜백 URL, $TOKEN_RANDOM은 요청마다 새로 만드는 랜덤 토큰으로 치환된다.",
   "# 각 필드는 snake_case/camelCase 표기를 모두 사용할 수 있다.",
   "",
   "payloads:",
   "  - name: general_ssrf_callback",
   "    interpretation_environment: INTERPRETATION_ANY",
   "    execution_environment: EXEC_ANY",
   "    uses_callback_server: true",
   "    payload_string: $TOKEN_URL",
   "    vulnerability_type:",
   "      - SSRF",
   "  - name: general_ssrf_no_callback",
   "    # 콜백 서버 없이 안정적인 404 응답 페이지로 SSRF를 확인한다.",
   "    interpretation_environment: INTERPRETATION_ANY",
   "    execution_environment: EXEC_ANY",
   "    uses_callback_server: false",
   "    payload_string: http://google.com/page-does-not-exist",
   "    validationType: VALIDATION_REGEX",
   "    validationRegex: (?s).*Error 404 \\(Not Found\\)!!1.*",
   "    vulnerability_type:",
   "      - SSRF",
   "  - name: linux_callback",
   "    interpretation_environment: LINUX_SHELL",
   "    execution_environment: EXEC_INTERPRETATION_ENVIRONMENT",
   "    uses_callback_server: true",
   "    payload_string: curl $TOKEN_URL",
   "    vulnerability_type:",
   "      - REFLECTIVE_RCE",
   "      - BLIND_RCE",
   "  - name: linux_printf",
   "    interpretation_environment: LINUX_SHELL",
   "    execution_environment: EXEC_INTERPRETATION_ENVIRONMENT",
   "    uses_callback_server: false",
   "    payload_string: printf %s%s%s PAYLOAD_START $TOKEN_RANDOM PAYLOAD_END",
   "    validation_type: VALIDATION_REGEX",
   "    validation_regex: (?s).*PAYLOAD_START$TOKEN_RANDOMPAYLOAD_END.*",
   "    vulnerability_type:",
   "      - REFLECTIVE_RCE",
   "  - name: java_string_format",
   "    interpretationEnvironment: JAVA",
   "    executionEnvironment: EXEC_INTERPRETATION_ENVIRONMENT",
   "    usesCallbackServer: false",
   r#"    payloadString: String.format("%s%s%s", "PAYLOAD_START", "$TOKEN_RANDOM", "PAYLOAD_END")"#,
   "    validationType: VALIDATION_REGEX",
   "    validationRegex: (?s).*PAYLOAD_START$TOKEN_RANDOMPAYLOAD_END.*",
   "    vulnerabilityType:",
   "      - REFLECTIVE_RCE",
   "  - name: python_print",
   "    interpretation_environment: PYTHON",
   "    execution_environment: EXEC_INTERPRETATION_ENVIRONMENT",
   "    uses_callback_server: false",
   r#"    payload_string: print("%s%s%s" % ("PAYLOAD_START", "$TOKEN_RANDOM", "PAYLOAD_END"))"#,
   "    validation_type: VALIDATION_REGEX",
   "    validation_regex: (?s).*PAYLOAD_START$TOKEN_RANDOMPAYLOAD_END.*",
   "    vulnerability_type:",
   "      - REFLECTIVE_RCE"]

/-- The text of lines. -/
def textOfLines (lines : List String) : List Char := lines.flatMap fun line ↦ line.toList ++ ['\n']

end VulnScanner.PayloadCatalog
