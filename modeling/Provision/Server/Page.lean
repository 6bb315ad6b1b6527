import Provision.Text.Search

namespace Provision.Page

/-!
# The page

The page is a shell into which the configuration is injected, in place of an empty one.  In the
injected text the two characters that would close the surrounding script are kept apart.
-/

def shellLines : List String :=
  ["<!doctype html>",
    "<html lang=\"en\">",
    "<head>",
    "  <meta charset=\"utf-8\">",
    "  <meta name=\"viewport\" content=\"width=device-width, initial-scale=1\">",
    "  <title>Onboard</title>",
    "  <script>window.configuration=\x7b\x7d;</script>",
    "  <style>",
    "    body \x7b font-family: sans-serif; max-width: 32rem; margin: 2rem auto; padding: 0 1rem; \x7d",
    "    label \x7b display: block; margin-top: 1rem; font-weight: bold; \x7d",
    "    small \x7b display: block; color: #555; font-weight: normal; \x7d",
    "    input \x7b width: 100%; padding: .4rem; box-sizing: border-box; \x7d",
    "    button \x7b margin-top: 1.5rem; padding: .5rem 1rem; \x7d",
    "    #result \x7b margin-top: 1rem; \x7d",
    "  </style>",
    "</head>",
    "<body>",
    "  <h1>Onboard</h1>",
    "  <form id=\"onboard\"></form>",
    "  <pre id=\"result\"></pre>",
    "  <script>",
    "    (function () \x7b",
    "      var cfg = window.configuration || \x7b\x7d;",
    "      var form = document.getElementById(\"onboard\");",
    "      var result = document.getElementById(\"result\");",
    "      (cfg.values || []).forEach(function (v) \x7b",
    "        var label = document.createElement(\"label\");",
    "        label.textContent = v.name;",
    "        if (v.description) \x7b",
    "          var d = document.createElement(\"small\");",
    "          d.textContent = v.description;",
    "          label.appendChild(d);",
    "        \x7d",
    "        var input = document.createElement(\"input\");",
    "        input.name = v.name;",
    "        input.type = v.secret ? \"password\" : \"text\";",
    "        label.appendChild(input);",
    "        form.appendChild(label);",
    "      \x7d);",
    "      var submit = document.createElement(\"button\");",
    "      submit.type = \"submit\";",
    "      submit.textContent = \"Submit\";",
    "      form.appendChild(submit);",
    "      form.addEventListener(\"submit\", function (e) \x7b",
    "        e.preventDefault();",
    "        var body = \x7b\x7d;",
    "        new FormData(form).forEach(function (value, key) \x7b body[key] = value; \x7d);",
    "        result.textContent = \"Onboarding...\";",
    "        fetch(\"/api/v1/onboard\", \x7b",
    "          method: \"POST\",",
    "          headers: \x7b \"content-type\": \"application/json\" \x7d,",
    "          body: JSON.stringify(body)",
    "        \x7d).then(function (res) \x7b",
    "          if (res.ok) \x7b",
    "            result.textContent = \"Done.\";",
    "            return;",
    "          \x7d",
    "          return res.json().then(function (err) \x7b",
    "            result.textContent = \"Error: \" + (err.error || res.status);",
    "          \x7d);",
    "        \x7d).catch(function (err) \x7b",
    "          result.textContent = \"Error: \" + err;",
    "        \x7d);",
    "      \x7d);",
    "    \x7d)();",
    "  </script>",
    "</body>",
    "</html>"]

def shell : String := String.join (shellLines.map (· ++ "\n"))

/-- What stands in the shell where the configuration belongs. -/
def placeholder : List Char := "configuration=\x7b\x7d".toList

def assignment : List Char := "configuration=".toList

/-- Puts a backslash between `<` and `/`. -/
def guardClosings : List Char → List Char
  | '<' :: '/' :: rest => '<' :: '\\' :: '/' :: guardClosings rest
  | c :: rest => c :: guardClosings rest
  | [] => []

/-- The text with a configuration in place of the first placeholder. -/
def inject (html json : List Char) : List Char :=
  match Text.cutAt? placeholder html with
  | none => html
  | some (before, after) => before ++ assignment ++ guardClosings json ++ after

def withConfiguration (json : String) : String :=
  String.ofList (inject shell.toList json.toList)

end Provision.Page
