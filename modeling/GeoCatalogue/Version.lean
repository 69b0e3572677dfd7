/-!
# The version

The version of this library, as a release number with a mark for releases
before the final one.
-/
namespace GeoCatalogue

/-- **The version of this library.** -/
def version : String := "0.3.0a1"

end GeoCatalogue
