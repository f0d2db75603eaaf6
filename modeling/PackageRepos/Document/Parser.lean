import PackageRepos.Value

/-!
# Parsing documents

Settings are documents made of nested sequences and mappings. How a document is written is not laid
down here: whoever reads settings is given a parser, which finds the document in a text or tells
what is wrong with the text.
-/

namespace PackageRepos
namespace Document

/-- Why a text holds no document, in the words of the parser. -/
structure Fault where
  message : Text
deriving DecidableEq, Repr

/-- What reads documents. A text that holds nothing is the document that is absent. -/
structure Parser where
  read : Text → Except Fault Value

/-- The parser that knows the documents in just these texts. -/
def Parser.ofDocuments (documents : List (Text × Value)) : Parser where
  read text :=
    match documents.lookup text with
    | some document => .ok document
    | none => .error { message := Text.of "unknown document" }

instance : Inhabited Parser := ⟨.ofDocuments []⟩

end Document
end PackageRepos
