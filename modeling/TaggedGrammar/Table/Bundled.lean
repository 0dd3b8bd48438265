import TaggedGrammar.Table.Basic

/-!
# The tables that come with the program

The languages and hosts that are used when no table is given. Of two languages with one alias the first
has precedence.
-/

namespace TaggedGrammar.Bundled

/-- The bundled languages, in order of precedence. -/
def languages : List Language :=
  [⟨"bat", ["bat", "cmd", "batch"], .one "source.batchfile"⟩,
   ⟨"c", ["c"], .one "source.c"⟩,
   ⟨"cpp", ["cpp", "c++", "cxx"], .one "source.cpp"⟩,
   ⟨"csharp", ["csharp", "cs", "c#"], .one "source.cs"⟩,
   ⟨"css", ["css"], .one "source.css"⟩,
   ⟨"dockerfile", ["dockerfile", "docker"], .one "source.dockerfile"⟩,
   ⟨"fsharp", ["fsharp", "fs", "f#"], .one "source.fsharp"⟩,
   ⟨"glsl", ["glsl", "frag", "vert", "shader"], .many ["source.glsl", "source.essl"]⟩,
   ⟨"go", ["go", "golang"], .one "source.go"⟩,
   ⟨"graphql", ["graphql", "gql"], .one "source.graphql"⟩,
   ⟨"html", ["html", "svg"], .one "text.html.basic"⟩,
   ⟨"ini", ["ini", "toml"], .one "source.ini"⟩,
   ⟨"java", ["java"], .one "source.java"⟩,
   ⟨"js", ["js", "javascript"], .one "source.js"⟩,
   ⟨"json", ["json"], .one "source.json"⟩,
   ⟨"jsx", ["jsx"], .one "source.js.jsx"⟩,
   ⟨"lua", ["lua"], .one "source.lua"⟩,
   ⟨"makefile", ["makefile", "make"], .one "source.makefile"⟩,
   ⟨"markdown", ["markdown", "md"], .one "text.html.markdown"⟩,
   ⟨"objc", ["objc", "objective-c"], .one "source.objc"⟩,
   ⟨"perl", ["perl", "pl"], .one "source.perl"⟩,
   ⟨"php", ["php"], .many ["source.php", "text.html.php"]⟩,
   ⟨"powershell", ["powershell", "ps1"], .one "source.powershell"⟩,
   ⟨"python", ["python", "py"], .one "source.python"⟩,
   ⟨"r", ["r"], .one "source.r"⟩,
   ⟨"regex", ["regex", "regexp"], .one "source.js.regexp"⟩,
   ⟨"ruby", ["ruby", "rb"], .one "source.ruby"⟩,
   ⟨"rust", ["rust", "rs"], .one "source.rust"⟩,
   ⟨"scss", ["scss"], .one "source.css.scss"⟩,
   ⟨"shell", ["shell", "sh", "bash", "zsh"], .one "source.shell"⟩,
   ⟨"sql", ["sql", "postgres", "pgsql", "mysql"], .one "source.sql"⟩,
   ⟨"swift", ["swift"], .one "source.swift"⟩,
   ⟨"ts", ["ts", "typescript"], .one "source.ts"⟩,
   ⟨"tsx", ["tsx"], .one "source.tsx"⟩,
   ⟨"vb", ["vb", "vbnet"], .one "source.asp.vb.net"⟩,
   ⟨"xml", ["xml", "xaml"], .one "text.xml"⟩,
   ⟨"yaml", ["yaml", "yml"], .one "source.yaml"⟩]

/-- The bundled host for block comments between a parenthesis and a star. -/
def fsharp : Host :=
  { name := "fsharp"
    targetScopes := ["source.fsharp", "source.fsharp.fsi", "source.fsharp.fsx", "source.fsharp.fsl"]
    tagged :=
      { opening := "(?i)(\\*\\s*\\b(?:\x7baliases\x7d)\\b\\s*\\*\\))\\s*(\"\"\")"
        closing := "(?=\"\"\")"
        openingCaptures :=
          [(1, "comment.block.fsharp"), (2, "punctuation.definition.string.begin.fsharp")] }
    dispatch :=
      { opening := "(?i)(\\()(?=(\\*\\s*\\b(?:\x7baliases\x7d)\\b\\s*\\*\\))\\s*\"\"\")"
        closing := "(\"\"\")"
        openingCaptures := [(1, "comment.block.fsharp")]
        closingCaptures := some
          [(0, "string.quoted.double.fsharp"), (1, "punctuation.definition.string.end.fsharp")] } }

/-- The bundled host for block comments between a slash and a star. -/
def javascript : Host :=
  { name := "javascript"
    targetScopes := ["source.js", "source.jsx", "source.js.jsx", "source.ts", "source.tsx"]
    tagged :=
      { opening := "(?i)(\\*\\s*\\b(?:\x7baliases\x7d)\\b\\s*\\*/)\\s*(`)"
        closing := "(?=`)"
        openingCaptures :=
          [(1, "comment.block.ts"), (2, "punctuation.definition.string.template.begin.js")] }
    dispatch :=
      { opening := "(?i)(/)(?=(\\*\\s*\\b(?:\x7baliases\x7d)\\b\\s*\\*/)\\s*`)"
        closing := "(`)"
        openingCaptures := [(1, "comment.block.ts")]
        closingCaptures := some
          [(0, "string.js"), (1, "punctuation.definition.string.template.end.js")] } }

/-- The bundled hosts. -/
def hosts : List Host :=
  [fsharp, javascript]

/-- What the bundled language table is called in notices. -/
def languagesOrigin : Text := "ctg._tables/languages.yaml"

/-- What the bundled host table is called in notices. -/
def hostsOrigin : Text := "ctg._tables/hosts.yaml"

end TaggedGrammar.Bundled
