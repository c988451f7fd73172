import ChatClient.Error
import ChatClient.Json.Basic
import ChatClient.Text.Blank
import ChatClient.Text.LowerCase

/-!
# The model catalog

The preset chat models with their endpoints and the parameters they document. A call goes to the
endpoint that it names, or else to the one of its model; a call that names neither goes to the
default model.
-/

namespace ChatClient

/-- A preset model: its request path, and the keys its requests must or may have. -/
structure ModelInfo where
  name : String
  path : String
  requiredKeys : List String
  optionalKeys : List String
deriving DecidableEq, Repr

namespace Catalog

/-- The model of a call that names neither a model nor an endpoint. -/
def defaultModel : String := "ERNIE-Bot-turbo"

/-- A model that documents no parameters of its own. -/
def plainModel (name path : String) : ModelInfo :=
  ⟨name, path, ["messages"], ["stream", "user_id"]⟩

/-- The preset models in the order of their names. -/
def models : List ModelInfo := [
  plainModel "AquilaChat-7B" "/chat/aquilachat_7b",
  plainModel "BLOOMZ-7B" "/chat/bloomz_7b1",
  plainModel "ChatGLM2-6B-32K" "/chat/chatglm2_6b_32k",
  ⟨"ERNIE-Bot", "/chat/completions", ["messages"],
    ["stream", "temperature", "top_p", "penalty_score", "functions", "system", "user_id",
      "user_setting"]⟩,
  ⟨"ERNIE-Bot-4", "/chat/completions_pro", ["messages"],
    ["stream", "temperature", "top_p", "penalty_score", "functions", "system", "user_id"]⟩,
  ⟨"ERNIE-Bot-turbo", "/chat/eb-instant", ["messages"],
    ["stream", "temperature", "top_p", "penalty_score", "user_id"]⟩,
  plainModel "Llama-2-13b-chat" "/chat/llama_2_13b",
  plainModel "Llama-2-70b-chat" "/chat/llama_2_70b",
  plainModel "Llama-2-7b-chat" "/chat/llama_2_7b",
  plainModel "Qianfan-BLOOMZ-7B-compressed" "/chat/qianfan_bloomz_7b_compressed",
  plainModel "Qianfan-Chinese-Llama-2-7B" "/chat/qianfan_chinese_llama_2_7b"]

/-- The preset model of that name. -/
def info? (name : String) : Option ModelInfo := models.find? (·.name == name)

/-- The names of the preset models, in order. -/
def names : List String := models.map (·.name)

/-- An endpoint that a call really names: an empty one counts as none. -/
def namedEndpoint? (endpoint : Option String) : Option String := endpoint.filter (· ≠ "")

/-- The error for a model that is not in the catalog. -/
def unsupported (model : String) : Error :=
  .validation ("model `" ++ model ++ "` is not supported, specify an endpoint instead")
    { field := some "model", origin := some "model_catalog" }

/-- The request path of a call. -/
def resolve (model endpoint : Option String) : Except Error String :=
  match namedEndpoint? endpoint with
  | some e => .ok ("/chat/" ++ dropLeadingSlashes e)
  | none =>
      let model := model.getD defaultModel
      match info? model with
      | some info => .ok info.path
      | none => .error (unsupported model)

/-- The parameter keys that the model of a call does not document, in order. A call that names an
endpoint, or a model outside the catalog, may have any. -/
def undocumented (model endpoint : Option String) (params : Fields Json) : List String :=
  match namedEndpoint? endpoint with
  | some _ => []
  | none =>
      match info? (model.getD defaultModel) with
      | none => []
      | some info =>
          (Fields.keys params).filter fun k =>
            !info.requiredKeys.contains k && !info.optionalKeys.contains k

/-- The models that an alternate backend may serve. -/
def alternateModels : List String := ["ERNIE-Bot-turbo", "ERNIE-Bot"]

/-- The name of a model at the alternate backend: lower case, and one model by its version. -/
def alternateName (model : String) : String :=
  lowerCase (if model = "ERNIE-Bot" then "ernie-bot-3.5" else model)

end Catalog

end ChatClient
