/-!
# The header of generated files
-/

namespace DisplayGen

/-- The line that tells generated files from others. -/
def generatedHeader : String := "// @generated by cargo-strgen. Do not edit."

end DisplayGen
