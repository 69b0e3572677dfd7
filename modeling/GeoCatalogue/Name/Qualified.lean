/-!
# Qualified names

Parameters, elements and attributes are known by a **qualified name**: a
namespace and a local name. Two names are the same when both parts are;
the label that a document uses for the namespace does not matter.
-/
namespace GeoCatalogue

/-- **A name in a namespace.** -/
structure QName where
  /-- The namespace. -/
  namespaceName : String
  /-- The name within the namespace. -/
  localName : String
deriving DecidableEq, Repr

namespace QName

/-- The name with its namespace in braces in front. -/
def text (name : QName) : String :=
  "\x7b" ++ name.namespaceName ++ "\x7d" ++ name.localName

end QName

end GeoCatalogue
