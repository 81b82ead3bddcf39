import ClassWiki.Declaration.Basic
import ClassWiki.Link

/-!
# Pages

A declaration becomes one page of Markdown.  The page is a list of parts; a part
may itself hold line breaks, as a summary does.
-/

namespace ClassWiki

structure PageOptions where
  exceptions : Bool
  namespaceLinks : Bool
  deriving DecidableEq, Repr

structure Page where
  name : Text
  lines : List Text
  deriving DecidableEq, Repr

namespace Page

def fileName (page : Page) : Text := page.name ++ ".md"

def text (page : Page) : Text := Text.unlines page.lines ++ "\n"

/-! ## Parts -/

def baseLink (options : PageOptions) : Text → Text :=
  if options.namespaceLinks then Link.ofQualified else Link.ofType

def inheritance (options : PageOptions) (bases : List Text) : Text :=
  if bases.isEmpty then "### Inheritance"
  else "### Inheritance: " ++ Text.join ", " (bases.map (baseLink options))

def optional (heading text : Text) : List Text :=
  if text.isEmpty then [] else [heading, text]

def listing (heading : Text) (items : List Text) : List Text :=
  if items.isEmpty then [] else heading :: items.map ("\t\t\t- " ++ ·)

def variableParts (entry : Variable) : List Text :=
  ("\t- " ++ Link.ofType entry.type ++ " " ++ entry.name) ::
    optional "\t\t- Summary:" entry.summary

def callParts : Option CallGraph → List Text
  | none => []
  | some calls =>
      listing "\t\t- **Invoked methods/properties:**" calls.invoked ++
        listing "\t\t- **Objects created:**" (calls.created.map Link.ofType)

def methodParts (options : PageOptions) (method : Method) : List Text :=
  ("\t- ### " ++ Link.ofType method.type ++ " " ++ method.name) ::
    ("\t\t- #### Parameters: " ++ Parameter.listText method.parameters) ::
    (optional "\t\t\t- Summary:" method.summary ++
      (if options.exceptions then optional "\t\t\t- Exceptions:" method.exceptions else []) ++
      callParts method.calls?)

def summaryParts (summary : Text) : List Text :=
  if summary.isEmpty then [] else [[], summary, []]

def heading (title : Text) : List Text := [title, []]

def ofDeclaration (options : PageOptions) (declaration : Declaration) : Page where
  name := declaration.name
  lines :=
    heading ("# " ++ declaration.name) ++ [inheritance options declaration.bases] ++
      summaryParts declaration.summary ++
      heading "## Fields" ++ declaration.fields.flatMap variableParts ++
      [] :: heading "## Properties" ++ declaration.properties.flatMap variableParts ++
      [] :: heading "## Methods" ++ declaration.methods.flatMap (methodParts options)

end Page

end ClassWiki
