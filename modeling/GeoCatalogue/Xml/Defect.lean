/-!
# Defects of XML documents

The ways in which a text fails to be a well-formed document that uses
namespaces correctly.
-/
namespace GeoCatalogue.Xml

/-- **Why a text is no XML document.** -/
inductive Defect where
  /-- A character or an octet that no document holds. -/
  | character
  /-- An encoding that is unknown or does not fit the octets. -/
  | encoding
  /-- A declaration of XML in the wrong form or place. -/
  | declaration
  /-- A comment or a processing instruction in the wrong form. -/
  | remark
  /-- A document type declaration in the wrong form or place. -/
  | doctype
  /-- A start tag or an end tag in the wrong form. -/
  | tag
  /-- An attribute in the wrong form, or one that is given twice. -/
  | attributes
  /-- A reference in the wrong form or to something undeclared. -/
  | reference
  /-- Text in the wrong form or outside the document element. -/
  | text
  /-- Elements that are not closed in the order they were opened. -/
  | nesting
  /-- Not exactly one document element. -/
  | root
  /-- A label without a namespace, or a namespace that cannot be bound. -/
  | namespaceBinding
deriving DecidableEq, Repr

end GeoCatalogue.Xml
