/-!
# CallPolicy.Xml.Fault

Why a text is no XML document, with the line and column where that shows.
-/

namespace CallPolicy
namespace Xml

/-- Lines count from one, columns from zero. -/
structure Position where
  line : Nat
  column : Nat
  deriving DecidableEq

inductive Cause where
  | syntaxError
  | noElement
  | invalidToken
  | unclosedToken
  | partialCharacter
  | mismatchedTag
  | duplicateAttribute
  | junkAfterRoot
  | parameterReference
  | undefinedEntity
  | recursiveEntity
  | crossingEntity
  | badCharacterNumber
  | binaryEntity
  | externalInAttribute
  | misplacedDeclaration
  | unknownEncoding
  | wrongEncoding
  | unclosedSection
  | unboundPrefix
  | undeclaredPrefix
  | badDeclaration
  | badPublicId
  | reservedXmlPrefix
  | reservedXmlnsPrefix
  | reservedNamespace
  /-- A reference in text to what no declaration gives a text. -/
  | unresolved (reference : String)
  deriving DecidableEq

def Cause.message : Cause → String
  | syntaxError => "syntax error"
  | noElement => "no element found"
  | invalidToken => "not well-formed (invalid token)"
  | unclosedToken => "unclosed token"
  | partialCharacter => "partial character"
  | mismatchedTag => "mismatched tag"
  | duplicateAttribute => "duplicate attribute"
  | junkAfterRoot => "junk after document element"
  | parameterReference => "illegal parameter entity reference"
  | undefinedEntity => "undefined entity"
  | recursiveEntity => "recursive entity reference"
  | crossingEntity => "asynchronous entity"
  | badCharacterNumber => "reference to invalid character number"
  | binaryEntity => "reference to binary entity"
  | externalInAttribute => "reference to external entity in attribute"
  | misplacedDeclaration => "XML or text declaration not at start of entity"
  | unknownEncoding => "unknown encoding"
  | wrongEncoding => "encoding specified in XML declaration is incorrect"
  | unclosedSection => "unclosed CDATA section"
  | unboundPrefix => "unbound prefix"
  | undeclaredPrefix => "must not undeclare prefix"
  | badDeclaration => "XML declaration not well-formed"
  | badPublicId => "illegal character(s) in public id"
  | reservedXmlPrefix =>
    "reserved prefix (xml) must not be undeclared or bound to another namespace name"
  | reservedXmlnsPrefix => "reserved prefix (xmlns) must not be declared or undeclared"
  | reservedNamespace => "prefix must not be bound to one of the reserved namespace names"
  | unresolved reference => "undefined entity " ++ reference

structure Fault where
  cause : Cause
  position : Position
  deriving DecidableEq

def Fault.message (f : Fault) : String :=
  f.cause.message ++ ": line " ++ toString f.position.line ++ ", column " ++
    toString f.position.column

/-- What keeps a document from being read: a fault in it, or an encoding that it names and that is
not to be had. -/
inductive Failure where
  | fault (f : Fault)
  | noSuchEncoding
  | multibyteEncoding
  deriving DecidableEq

end Xml
end CallPolicy
