import GeoCatalogue.Name.Bindings

/-!
# Vocabulary

The namespaces of the vocabularies that descriptions and catalogue
responses are written in, and the labels under which they can be used
without a declaration (`standardBindings`).
-/
namespace GeoCatalogue.Vocabulary

/-- OpenSearch 1.1, the namespace of parameters without a label. -/
def openSearch : String := "http://a9.com/-/spec/opensearch/1.1/"

/-- The OpenSearch extension for places. -/
def openSearchGeo : String := "http://a9.com/-/opensearch/extensions/geo/1.0/"

/-- The OpenSearch extension for times. -/
def openSearchTime : String :=
  "http://a9.com/-/opensearch/extensions/time/1.0/"

/-- GeoRSS. -/
def geoRss : String := "http://www.georss.org/georss/10"

/-- The older namespace of GeoRSS, still found in feeds. -/
def geoRssLegacy : String := "http://www.georss.org/georss"

/-- OGC Web Services Common 2.0. -/
def ows : String := "http://www.opengis.net/ows/2.0"

/-- OGC Web Services Common 1.1. -/
def ows11 : String := "http://www.opengis.net/ows/1.1"

/-- Geography Markup Language 3.2. -/
def gml : String := "http://www.opengis.net/gml/3.2"

/-- Geography Markup Language 3.1. -/
def gml31 : String := "http://www.opengis.net/gml"

/-- Catalogue Services for the Web 3.0. -/
def csw : String := "http://www.opengis.net/cat/csw/3.0"

/-- Filter Encoding 2.0. -/
def filterEncoding : String := "http://www.opengis.net/fes/2.0"

/-- Atom. -/
def atom : String := "http://www.w3.org/2005/Atom"

/-- Dublin Core terms. -/
def dublinCoreTerms : String := "http://purl.org/dc/terms/"

/-- Dublin Core elements. -/
def dublinCore : String := "http://purl.org/dc/elements/1.1/"

/-- **The labels that need no declaration.** -/
def standardBindings : Bindings := [
  (some "os", openSearch), (some "geo", openSearchGeo),
  (some "time", openSearchTime), (some "georss", geoRss),
  (some "ows", ows), (some "ows11", ows11), (some "gml", gml),
  (some "gml31", gml31), (some "csw", csw), (some "fes", filterEncoding),
  (some "atom", atom), (some "dc", dublinCore),
  (some "dct", dublinCoreTerms)]

end GeoCatalogue.Vocabulary
