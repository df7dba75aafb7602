import FlightHub.Common.Http

/-! The providers of `ai/llm_provider.py`: the request of each vendor, the text
which is read out of an arbitrary JSON body, and the wrapper which asks the
other vendor after the exceptions it catches. The printed form of a body is a
parameter. -/
namespace FlightHub
open Python

namespace LLMProvider

structure Request where
  url : String
  params : List (String × String) := []
  headers : List (String × String) := []
  json : Json

/-- One subscript of `data[...][...]`. -/
inductive Step where
  | key (name : String)
  | index (position : Nat)

def Step.apply : Step → Json → Except Exception Json
  | .key name => Json.field name
  | .index position => Json.item position

def walk : List Step → Json → Except Exception Json
  | [], value => .ok value
  | step :: rest, value => step.apply value >>= walk rest

/-- `value.strip()`. -/
def stripText : Json → Except Exception String
  | .str text => .ok (stripString text)
  | _ => .error .attributeError

inductive Vendor where
  | gemini
  | groq
deriving DecidableEq

def Vendor.title : Vendor → String
  | .gemini => "Gemini"
  | .groq => "Groq"

def Vendor.path : Vendor → List Step
  | .gemini => [.key "candidates", .index 0, .key "content", .key "parts", .index 0, .key "text"]
  | .groq => [.key "choices", .index 0, .key "message", .key "content"]

/-- `if system:`. -/
def given : Option String → Option String
  | some text => if text = "" then none else some text
  | none => none

def GeminiProvider.request (apiKey model prompt : String) (system : Option String) : Request where
  url := s!"https://generativelanguage.googleapis.com/v1beta/models/{model}:generateContent"
  params := [("key", apiKey)]
  json := .obj ([
    ("contents", .arr [.obj [("role", .str "user"), ("parts", .arr [.obj [("text", .str prompt)]])]]),
    ("generationConfig", .obj [("temperature", .float (1 / 5))])] ++
    (given system).toList.map fun text =>
      ("systemInstruction", .obj [("parts", .arr [.obj [("text", .str text)]])]))

def GroqProvider.request (apiKey model prompt : String) (system : Option String) : Request where
  url := "https://api.groq.com/openai/v1/chat/completions"
  headers := [("Authorization", s!"Bearer {apiKey}")]
  json := .obj [
    ("model", .str model),
    ("messages", .arr (((given system).toList.map fun text =>
        .obj [("role", .str "system"), ("content", .str text)]) ++
      [.obj [("role", .str "user"), ("content", .str prompt)]])),
    ("temperature", .float (1 / 5))]

structure Provider where
  vendor : Vendor
  apiKey : String
  model : String

def Provider.request (provider : Provider) (prompt : String) (system : Option String) : Request :=
  match provider.vendor with
  | .gemini => GeminiProvider.request provider.apiKey provider.model prompt system
  | .groq => GroqProvider.request provider.apiKey provider.model prompt system

/-- The settings of the AI layer; a key which is not set is `none`. -/
structure Settings where
  llmProvider : Vendor := .gemini
  geminiApiKey : Option String := none
  geminiModel : String := "gemini-3.6-flash"
  groqApiKey : Option String := none
  groqModel : String := "openai/gpt-oss-120b"

def buildProvider (name : Vendor) (settings : Settings) : Except Exception Provider :=
  match name with
  | .gemini =>
    match given settings.geminiApiKey with
    | none => .error (.valueError "GEMINI_API_KEY is not set")
    | some apiKey => .ok ⟨.gemini, apiKey, settings.geminiModel⟩
  | .groq =>
    match given settings.groqApiKey with
    | none => .error (.valueError "GROQ_API_KEY is not set")
    | some apiKey => .ok ⟨.groq, apiKey, settings.groqModel⟩

/-- The primary, and the fallback which wraps it when its key is set too. -/
def getLlmProvider (settings : Settings) : Except Exception (Provider × Option Provider) := do
  let primary ← buildProvider settings.llmProvider settings
  let fallbackName : Vendor := if settings.llmProvider = .gemini then .groq else .gemini
  match buildProvider fallbackName settings with
  | .ok fallback => return (primary, some fallback)
  | .error _ => return (primary, none)

/-- A call of `complete` on the provider of one vendor. -/
structure Call where
  vendor : Vendor
  prompt : String
  system : Option String
deriving DecidableEq

structure Completion where
  result : Except Exception String
  calls : List Call

section Functions
variable (format : Json → String) (post : Request → Http.Outcome)

/-- The `try` block around the subscripts. -/
def responseText (vendor : Vendor) (data : Json) : Except Exception String :=
  match walk vendor.path data >>= stripText with
  | .error (.keyError _) | .error .indexError =>
    .error (.runtimeError s!"Unexpected {vendor.title} response shape: {format data}")
  | outcome => outcome

def Provider.complete (provider : Provider) (prompt : String) (system : Option String) : Completion where
  result := (post (provider.request prompt system)).json >>= responseText format provider.vendor
  calls := [⟨provider.vendor, prompt, system⟩]

/-- `except (httpx.HTTPError, RuntimeError)`. -/
def caught : Exception → Bool
  | .httpError | .runtimeError _ => true
  | _ => false

def FallbackLLMProvider.complete (primary fallback : Provider) (prompt : String)
    (system : Option String) : Completion :=
  let first := primary.complete format post prompt system
  match first.result with
  | .ok _ => first
  | .error exception =>
    if caught exception then
      let second := fallback.complete format post prompt system
      ⟨second.result, first.calls ++ second.calls⟩
    else first

end Functions

/-- What a path leads to in a body: a text, an entry which a container of the
right kind does not have, or a value of a kind which is not expected there. -/
inductive Found where
  | text (text : String)
  | missing
  | wrongKind

def find : List Step → Json → Found
  | [], .str text => .text text
  | [], _ => .wrongKind
  | .key name :: rest, .obj fields =>
    match fields.lookup name with
    | some value => find rest value
    | none => .missing
  | .index position :: rest, .arr items =>
    match items[position]? with
    | some value => find rest value
    | none => .missing
  | .index position :: rest, .str text =>
    match text.toList[position]? with
    | some c => find rest (.str (String.singleton c))
    | none => .missing
  | .index _ :: _, .obj _ => .missing
  | _ :: _, _ => .wrongKind

/-- The text of a successful response. -/
def textOf (vendor : Vendor) : Http.Outcome → Option String
  | .response statusCode (some data) =>
    match Http.isSuccess statusCode, find vendor.path data with
    | true, .text text => some text
    | _, _ => none
  | _ => none

/-- A completion is the stripped text of the primary, and where there is none
that of the fallback, called once with the same prompt and system text. -/
def FallsBack (format : Json → String) (post : Request → Http.Outcome) (primary fallback : Provider)
    (prompt : String) (system : Option String) : Prop :=
  FallbackLLMProvider.complete format post primary fallback prompt system =
    match textOf primary.vendor (post (primary.request prompt system)) with
    | some text => ⟨.ok (stripString text), [⟨primary.vendor, prompt, system⟩]⟩
    | none => ⟨(fallback.complete format post prompt system).result,
        [⟨primary.vendor, prompt, system⟩, ⟨fallback.vendor, prompt, system⟩]⟩

/-- The exchange fails, or the body is JSON and the path to the text does not
come to a value of the wrong kind. -/
def Expected (vendor : Vendor) : Http.Outcome → Prop
  | .transportError => True
  | .response statusCode body =>
    Http.isSuccess statusCode = true → ∃ data, body = some data ∧ find vendor.path data ≠ .wrongKind

section Shapes
variable {format : Json → String} {post : Request → Http.Outcome} {primary fallback : Provider}
  {prompt : String} {system : Option String}

/-- The three ways in which the subscripts and `.strip()` end. -/
theorem walk_find (steps : List Step) (value : Json) :
    match find steps value with
    | .text text => (walk steps value >>= stripText) = .ok (stripString text)
    | .missing => (∃ name, (walk steps value >>= stripText) = .error (.keyError name)) ∨
        (walk steps value >>= stripText) = .error .indexError
    | .wrongKind => (walk steps value >>= stripText) = .error .typeError ∨
        (walk steps value >>= stripText) = .error .attributeError := by
  induction steps generalizing value with
  | nil =>
    cases value with
    | str text => rfl
    | _ => exact .inr rfl
  | cons step rest ih =>
    cases step with
    | key name =>
      cases value with
      | obj fields =>
        simp only [find, walk, Step.apply, Json.field]
        cases fields.lookup name with
        | none => exact .inl ⟨name, rfl⟩
        | some value => exact ih value
      | _ => exact .inl rfl
    | index position =>
      cases value with
      | obj fields => exact .inl ⟨toString position, rfl⟩
      | arr items =>
        simp only [find, walk, Step.apply, Json.item]
        cases items[position]? with
        | none => exact .inr rfl
        | some value => exact ih value
      | str text =>
        simp only [find, walk, Step.apply, Json.item]
        cases text.toList[position]? with
        | none => exact .inr rfl
        | some c => exact ih (.str (String.singleton c))
      | _ => exact .inl rfl

theorem responseText_text {vendor : Vendor} {data : Json} {text : String}
    (found : find vendor.path data = .text text) :
    responseText format vendor data = .ok (stripString text) := by
  have ended := walk_find vendor.path data
  rw [found] at ended
  simp only [responseText, ended]

theorem responseText_missing {vendor : Vendor} {data : Json}
    (found : find vendor.path data = .missing) :
    ∃ message, responseText format vendor data = .error (.runtimeError message) := by
  have ended := walk_find vendor.path data
  rw [found] at ended
  rcases ended with ⟨name, ended⟩ | ended <;> simp only [responseText, ended] <;> exact ⟨_, rfl⟩

theorem responseText_wrongKind {vendor : Vendor} {data : Json}
    (found : find vendor.path data = .wrongKind) :
    ∃ exception, responseText format vendor data = .error exception ∧ caught exception = false := by
  have ended := walk_find vendor.path data
  rw [found] at ended
  rcases ended with ended | ended <;> simp only [responseText, ended] <;> exact ⟨_, rfl, rfl⟩

theorem complete_of_ok {text : String}
    (returned : (primary.complete format post prompt system).result = .ok text) :
    FallbackLLMProvider.complete format post primary fallback prompt system =
      ⟨.ok text, [⟨primary.vendor, prompt, system⟩]⟩ := by
  simp only [FallbackLLMProvider.complete, returned]
  rw [← returned]
  rfl

theorem complete_of_caught {exception : Exception}
    (raised : (primary.complete format post prompt system).result = .error exception)
    (handled : caught exception = true) :
    FallbackLLMProvider.complete format post primary fallback prompt system =
      ⟨(fallback.complete format post prompt system).result,
        [⟨primary.vendor, prompt, system⟩, ⟨fallback.vendor, prompt, system⟩]⟩ := by
  simp only [FallbackLLMProvider.complete, raised, handled, if_true]
  rfl

theorem complete_of_uncaught {exception : Exception}
    (raised : (primary.complete format post prompt system).result = .error exception)
    (escapes : caught exception = false) :
    FallbackLLMProvider.complete format post primary fallback prompt system =
      ⟨.error exception, [⟨primary.vendor, prompt, system⟩]⟩ := by
  simp only [FallbackLLMProvider.complete, raised, escapes, Bool.false_eq_true, if_false]
  rw [← raised]
  rfl

/-- Either the primary has a text, or it raises; what it raises is caught
exactly where the exchange is of an expected kind. -/
theorem primary_cases :
    (∃ text, textOf primary.vendor (post (primary.request prompt system)) = some text ∧
      (primary.complete format post prompt system).result = .ok (stripString text) ∧
        Expected primary.vendor (post (primary.request prompt system))) ∨
    ∃ exception, textOf primary.vendor (post (primary.request prompt system)) = none ∧
      (primary.complete format post prompt system).result = .error exception ∧
        (Expected primary.vendor (post (primary.request prompt system)) ↔ caught exception = true) := by
  simp only [Provider.complete]
  cases exchanged : post (primary.request prompt system) with
  | transportError => exact .inr ⟨.httpError, rfl, rfl, by simp [Expected, caught]⟩
  | response statusCode body =>
    simp only [Http.Outcome.json, Expected]
    cases success : Http.isSuccess statusCode with
    | false =>
      refine .inr ⟨.httpError, ?_, rfl, by simp [caught]⟩
      cases body <;> simp [textOf, success]
    | true =>
      cases body with
      | none => exact .inr ⟨.jsonDecodeError, rfl, rfl, by simp [caught]⟩
      | some data =>
        simp only [textOf, success, if_true, Option.elim_some, bind, Except.bind]
        cases found : find primary.vendor.path data with
        | text text =>
          refine .inl ⟨text, rfl, responseText_text found, fun _ => ⟨data, rfl, ?_⟩⟩
          simp [found]
        | missing =>
          obtain ⟨message, raised⟩ := @responseText_missing format _ _ found
          refine .inr ⟨_, rfl, raised, ?_⟩
          simp [caught, found]
        | wrongKind =>
          obtain ⟨exception, raised, escapes⟩ := @responseText_wrongKind format _ _ found
          refine .inr ⟨exception, rfl, raised, ?_⟩
          simp [found, escapes]

/-- The fallback is complete exactly for the expected outcomes of the exchange. -/
theorem falls_back_iff (format : Json → String) (post : Request → Http.Outcome)
    (primary fallback : Provider) (prompt : String) (system : Option String) :
    FallsBack format post primary fallback prompt system ↔
      Expected primary.vendor (post (primary.request prompt system)) := by
  unfold FallsBack
  rcases @primary_cases format post primary prompt system with
    ⟨text, present, returned, expected⟩ | ⟨exception, absent, raised, expected⟩
  · rw [present, complete_of_ok returned]
    exact iff_of_true rfl expected
  · rw [absent, expected]
    cases handled : caught exception with
    | true =>
      rw [complete_of_caught raised handled]
      exact iff_of_true rfl rfl
    | false =>
      rw [complete_of_uncaught raised handled]
      simp

end Shapes

def gemini : Provider := ⟨.gemini, "key", "gemini-3.6-flash"⟩

def groq : Provider := ⟨.groq, "key", "openai/gpt-oss-120b"⟩

/-- A body of Gemini whose candidate carries no content. -/
def emptyCandidate : Json := .obj [("candidates", .arr [.obj [("content", .null)]])]

/-- The subscript of `null` raises `TypeError`, which is not caught: the
fallback is not asked. -/
theorem unexpected_shape_escapes :
    ¬ ∀ format post primary fallback prompt system, primary.vendor ≠ fallback.vendor →
      FallsBack format post primary fallback prompt system := by
  intro complete
  have fell := complete (fun _ => "") (fun _ => .response 200 (some emptyCandidate)) gemini groq
    "How many flights are airborne?" none (by decide)
  have asked := congrArg (fun completion => completion.calls.length) fell
  exact absurd asked (by decide)

end LLMProvider
end FlightHub
