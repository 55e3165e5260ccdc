import RecordDesk.Text.Blank
import RecordDesk.Error

/-
  Settings of the program: where the server is, how it is asked, and in which language screens
  appear. Variables of the environment stand above what a file says, and the settings can be given
  as variables.
-/

namespace RecordDesk

/-- The settings. -/
structure Settings where
  /-- The directory of the configuration; without it the server is asked. -/
  configDir : Option String
  /-- The address of the server. -/
  baseUrl : String
  /-- How many seconds an answer may take. -/
  timeout : Nat
  /-- How often a request is sent again. -/
  maxRetries : Nat
  /-- The language of the screens; without it that of the project is used. -/
  language : Option String
deriving DecidableEq, Repr

namespace Settings

/-- The name of the program. -/
def programName : String := "tablecraft"

/-- The settings where nothing is set. -/
def default : Settings := ⟨none, "http://localhost:8082", 30, 3, none⟩

instance : Inhabited Settings := ⟨default⟩

/-! ## Variables -/

/-- The variable of the server's address. -/
def urlVariable : String := "TABLECRAFT_API_URL"

/-- The variable of the time that an answer may take. -/
def timeoutVariable : String := "TABLECRAFT_API_TIMEOUT_SECS"

/-- The variable of the number of repeated requests. -/
def retriesVariable : String := "TABLECRAFT_API_MAX_RETRIES"

/-- The variable of the language. -/
def languageVariable : String := "TABLECRAFT_LANGUAGE"

/-- The variable of the directory of the configuration. -/
def configDirVariable : String := "TABLECRAFT_CONFIG_DIR"

/-- The variable of the settings file. -/
def fileVariable : String := "TABLECRAFT_CONFIG"

/-- A text that is there and not empty. -/
def nonempty (s : Option String) : Option String := s.filter (!·.isEmpty)

/-- The settings under variables; empty ones count as not set. -/
def withVariables (s : Settings) (url language configDir : Option String) : Settings :=
  { s with
    baseUrl := (nonempty url).getD s.baseUrl
    language := (nonempty language).or s.language
    configDir := (nonempty configDir).or s.configDir }

/-- The settings under an environment. -/
def underEnvironment (s : Settings) (env : String → Option String) : Settings :=
  s.withVariables (env urlVariable) (env languageVariable) (env configDirVariable)

/-- The settings as variables. -/
def environment (s : Settings) : List (String × String) :=
  [(urlVariable, s.baseUrl), (timeoutVariable, toString s.timeout),
    (retriesVariable, toString s.maxRetries)]
    ++ (s.language.map (languageVariable, ·)).toList
    ++ (s.configDir.map (configDirVariable, ·)).toList

/-- The settings as lines of variables; a container program wants each as an option. -/
def exportLines (s : Settings) (asOptions : Bool) : List String :=
  s.environment.map fun (name, value) => (if asOptions then "--env " else "") ++ name ++ "=" ++ value

/-- Settings that can be used: there is an address. -/
def check (s : Settings) : Except Error Settings :=
  if (Text.trim s.baseUrl).isEmpty then .error (.config "api.base_url must not be empty") else .ok s

end Settings

end RecordDesk
