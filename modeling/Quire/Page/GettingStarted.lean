import Quire.Page.Basic

set_option autoImplicit false

/-!
The documentation home page.
-/

namespace Quire.Page.GettingStarted

def metadata : Metadata where
  unversionedId := "doc-get-started"
  id := "doc-get-started"
  isHomePage := false
  title := "Get Started with Coderrect OpenRace"
  description := "Building the Project"
  source := "@site/docs/doc-get-started.md"
  sourceDirectory := "."
  slug := "/"
  permalink := "/OpenRace/"
  editUrl :=
    "https://github.com/coderrect-inc/OpenRace/tree/develop/website/docs/doc-get-started.md"
  version := "current"
  frontMatter :=
    { id := "doc-get-started", title := "Get Started with Coderrect OpenRace", slug := "/" }
  sidebar := some "openraceSidebar"
  previous := none
  next := some { title := "Hello, World!", permalink := "/OpenRace/doc-hello-world" }

def contents : List Heading :=
  [⟨"Building the Project", "building-the-project", []⟩]

def part (name : String) (props : Props) (children : List Node) : Node :=
  .ofElement (.typed (.named ⟨name⟩) props children none)

def within (parent : String) : Props :=
  Bag.ofList [(parentKey, .text parent)]

def paragraph (children : List Node) : Node :=
  part "p" ∅ children

def strong (content : String) : Node :=
  part "strong" (within "p") [.text content]

def inlineCode (content : String) : Node :=
  part "inlineCode" (within "p") [.text content]

def codeBlock (className : Option String) (source : String) : Node :=
  let props := match className with
    | some className => (within "pre").insert "className" (.text className)
    | none => within "pre"
  part "pre" ∅ [part "code" props [.text source]]

def buildLlvm : String :=
  "git clone --depth 1 -b llvmorg-10.0.1 https://github.com/llvm/llvm-project.git\n" ++
  "cd llvm-project && mkdir build && cd build\n" ++
  "cmake \\\n" ++
  "    -DLLVM_TARGETS_TO_BUILD=\"X86\" \\\n" ++
  "    -DCMAKE_CXX_STANDARD=\"17\" \\\n" ++
  "    -DLLVM_INCLUDE_EXAMPLES=OFF \\\n" ++
  "    -DLLVM_INCLUDE_TESTS=OFF \\\n" ++
  "    -DLLVM_INCLUDE_BENCHMARKS=OFF \\\n" ++
  "    -DLLVM_APPEND_VC_REV=OFF \\\n" ++
  "    -DLLVM_OPTIMIZED_TABLEGEN=ON \\\n" ++
  "    -DCMAKE_BUILD_TYPE=Release \\\n" ++
  "    ../llvm\n" ++
  "make -j\n"

def buildProject : String :=
  "git clone https://github.com/coderrect-inc/OpenRace.git\n" ++
  "mkdir build && cd build\n" ++
  "conan install ..\n" ++
  "cmake -DLLVM_DIR=/path/to/llvm-project/build/lib/cmake/llvm/ ..\n" ++
  "make -j\n"

def runTester : String := "./bin/tester\n"

def nodes : List Node :=
  [part "h2" (Bag.ofList [("id", .text "building-the-project")]) [.text "Building the Project"],
    paragraph [.text ("Currently, the only way to get started with Coderrect OpenRace is " ++
      "building the project.")],
    paragraph [
      .text "Coderrect requires ",
      strong "LLVM 10.0.x",
      .text (" to build. You can either installed a pre-built LLVM10 or build it on your own.")],
    paragraph [
      .text "First make sure you have ",
      inlineCode "git",
      .text ", ",
      inlineCode "cmake",
      .text " and ",
      inlineCode "make",
      .text " installed on your local environment."],
    paragraph [.text "The script below builds and installs LLVM 10.0.1:"],
    codeBlock (some "language-bash") buildLlvm,
    paragraph [
      .text "In order to build Coderrect OpenRace, we need to specify the directory ",
      inlineCode "LLVM_DIR",
      .text " containing ",
      inlineCode "LLVMConfig.cmake",
      .text ", which should be ",
      inlineCode "/path/to/llvm-project/build/lib/cmake/llvm/",
      .text "."],
    paragraph [
      .text "Now for building Coderrect OpenRace, you need to first install ",
      inlineCode "conan",
      .text " as package manager."],
    paragraph [
      .text ("Coderrect OpenRace shoule be able to build with any C++ compiler with C++17 " ++
        "support.\nWe recommend using a compiler same or newer than "),
      strong "gcc9/clang10",
      .text ".\nThe script below builds Coderrect OpenRace:"],
    codeBlock (some "language-bash") buildProject,
    paragraph [.text ("Now you have successfully built Coderrect OpenRace! Run our tester to " ++
      "check out its current status:")],
    codeBlock none runTester]

def page : Page where
  metadata := metadata
  contents := contents
  body := Page.layout contents nodes

end Quire.Page.GettingStarted
