import SyntaxPanel.Json.Check

namespace SyntaxPanel.Capabilities

open Check

def flag (name : String) : Field := optional name bool

def dynamicRegistration : Field := flag "dynamicRegistration"

def dynamic (feature : String) : Field :=
  optional feature (record "DynamicRegistrationClientCapabilities" [dynamicRegistration])

def refresh (feature name : String) : Field :=
  optional feature (record name [flag "refreshSupport"])

def kinds (feature name : String) : Field :=
  optional feature (record name [optional "valueSet" (list int32)])

def tags : Field :=
  defaulted "tagSupport" fun j =>
    match j with
    | .bool _ => .ok ()
    | j => record "TagSupport" [required "valueSet" (list int32)] j

def resolve (name : String) : Field :=
  optional "resolveSupport" (record name [required "properties" (list string)])

def markupKinds (feature : String) : Field :=
  optional feature (list (name ["plaintext", "markdown"]))

def workspaceEdit : Check :=
  record "WorkspaceEditClientCapabilities"
    [flag "documentChanges",
     optional "resourceOperations" (list (name ["create", "rename", "delete"])),
     optional "failureHandling"
       (name ["abort", "transactional", "textOnlyTransactional", "undo"]),
     flag "normalizesLineEndings",
     optional "changeAnnotationSupport"
       (record "ChangeAnnotationWorkspaceEditClientCapabilities" [flag "groupsOnLabel"])]

def workspaceSymbol : Check :=
  record "WorkspaceSymbolClientCapabilities"
    [dynamicRegistration, kinds "symbolKind" "SymbolKindCapability", tags,
     resolve "WorkspaceSymbolResolveSupportCapability"]

def fileOperations : Check :=
  record "WorkspaceFileOperationsClientCapabilities"
    [dynamicRegistration, flag "didCreate", flag "willCreate", flag "didRename", flag "willRename",
     flag "didDelete", flag "willDelete"]

def workspace : Check :=
  record "WorkspaceClientCapabilities"
    [flag "applyEdit",
     optional "workspaceEdit" workspaceEdit,
     dynamic "didChangeConfiguration",
     optional "didChangeWatchedFiles"
       (record "DidChangeWatchedFilesClientCapabilities"
         [dynamicRegistration, flag "relativePatternSupport"]),
     optional "symbol" workspaceSymbol,
     dynamic "executeCommand",
     flag "workspaceFolders",
     flag "configuration",
     refresh "semanticTokens" "SemanticTokensWorkspaceClientCapabilities",
     refresh "codeLens" "CodeLensWorkspaceClientCapabilities",
     optional "fileOperations" fileOperations,
     refresh "inlineValue" "InlineValueWorkspaceClientCapabilities",
     refresh "inlayHint" "InlayHintWorkspaceClientCapabilities",
     refresh "diagnostic" "DiagnosticWorkspaceClientCapabilities"]

def synchronization : Check :=
  record "TextDocumentSyncClientCapabilities"
    [dynamicRegistration, flag "willSave", flag "willSaveWaitUntil", flag "didSave"]

def completionItem : Check :=
  record "CompletionItemCapability"
    [flag "snippetSupport", flag "commitCharactersSupport", markupKinds "documentationFormat",
     flag "deprecatedSupport", flag "preselectSupport", tags, flag "insertReplaceSupport",
     resolve "CompletionItemCapabilityResolveSupport",
     optional "insertTextModeSupport"
       (record "InsertTextModeSupport" [required "valueSet" (list int32)]),
     flag "labelDetailsSupport"]

def completion : Check :=
  record "CompletionClientCapabilities"
    [dynamicRegistration,
     optional "completionItem" completionItem,
     kinds "completionItemKind" "CompletionItemKindCapability",
     flag "contextSupport",
     optional "insertTextMode" int32,
     optional "completionList"
       (record "CompletionListCapability" [optional "itemDefaults" (list string)])]

def hover : Check :=
  record "HoverClientCapabilities" [dynamicRegistration, markupKinds "contentFormat"]

def signatureHelp : Check :=
  record "SignatureHelpClientCapabilities"
    [dynamicRegistration,
     optional "signatureInformation"
       (record "SignatureInformationSettings"
         [markupKinds "documentationFormat",
          optional "parameterInformation"
            (record "ParameterInformationSettings" [flag "labelOffsetSupport"]),
          flag "activeParameterSupport"]),
     flag "contextSupport"]

def documentSymbol : Check :=
  record "DocumentSymbolClientCapabilities"
    [dynamicRegistration, kinds "symbolKind" "SymbolKindCapability",
     flag "hierarchicalDocumentSymbolSupport", tags]

def goto (feature : String) : Field :=
  optional feature (record "GotoCapability" [dynamicRegistration, flag "linkSupport"])

def codeAction : Check :=
  record "CodeActionClientCapabilities"
    [dynamicRegistration,
     optional "codeActionLiteralSupport"
       (record "CodeActionLiteralSupport"
         [required "codeActionKind"
           (record "CodeActionKindLiteralSupport" [required "valueSet" (list string)])]),
     flag "isPreferredSupport", flag "disabledSupport", flag "dataSupport",
     resolve "CodeActionCapabilityResolveSupport", flag "honorsChangeAnnotations"]

def rename : Check :=
  record "RenameClientCapabilities"
    [dynamicRegistration, flag "prepareSupport",
     optional "prepareSupportDefaultBehavior" int32, flag "honorsChangeAnnotations"]

def publishDiagnostics : Check :=
  record "PublishDiagnosticsClientCapabilities"
    [flag "relatedInformation", tags, flag "versionSupport", flag "codeDescriptionSupport",
     flag "dataSupport"]

def foldingRange : Check :=
  record "FoldingRangeClientCapabilities"
    [dynamicRegistration, optional "rangeLimit" nat32, flag "lineFoldingOnly",
     optional "foldingRangeKind"
       (record "FoldingRangeKindCapability"
         [optional "valueSet" (list (name ["comment", "imports", "region"]))]),
     optional "foldingRange" (record "FoldingRangeCapability" [flag "collapsedText"])]

def allTokens : Check :=
  union "SemanticTokensFullOptions"
    [bool, fun j => match j with
      | .obj written => object [flag "delta"] written
      | j => j.wrongKind "a map"]

def semanticTokens : Check :=
  record "SemanticTokensClientCapabilities"
    [dynamicRegistration,
     required "requests"
       (record "SemanticTokensClientCapabilitiesRequests"
         [flag "range", optional "full" allTokens]),
     required "tokenTypes" (list string),
     required "tokenModifiers" (list string),
     required "formats" (list string),
     flag "overlappingTokenSupport", flag "multilineTokenSupport", flag "serverCancelSupport",
     flag "augmentsSyntaxTokens"]

def textDocument : Check :=
  record "TextDocumentClientCapabilities"
    [optional "synchronization" synchronization,
     optional "completion" completion,
     optional "hover" hover,
     optional "signatureHelp" signatureHelp,
     dynamic "references",
     dynamic "documentHighlight",
     optional "documentSymbol" documentSymbol,
     dynamic "formatting",
     dynamic "rangeFormatting",
     dynamic "onTypeFormatting",
     goto "declaration",
     goto "definition",
     goto "typeDefinition",
     goto "implementation",
     optional "codeAction" codeAction,
     dynamic "codeLens",
     optional "documentLink"
       (record "DocumentLinkClientCapabilities" [dynamicRegistration, flag "tooltipSupport"]),
     dynamic "colorProvider",
     optional "rename" rename,
     optional "publishDiagnostics" publishDiagnostics,
     optional "foldingRange" foldingRange,
     optional "selectionRange" (record "SelectionRangeClientCapabilities" [dynamicRegistration]),
     dynamic "linkedEditingRange",
     dynamic "callHierarchy",
     optional "semanticTokens" semanticTokens,
     dynamic "moniker",
     dynamic "typeHierarchy",
     dynamic "inlineValue",
     optional "inlayHint"
       (record "InlayHintClientCapabilities"
         [dynamicRegistration, resolve "InlayHintResolveClientCapabilities"]),
     optional "diagnostic"
       (record "DiagnosticClientCapabilities"
         [dynamicRegistration, flag "relatedDocumentSupport"])]

def notebookDocument : Check :=
  record "NotebookDocumentClientCapabilities"
    [required "synchronization"
      (record "NotebookDocumentSyncClientCapabilities"
        [dynamicRegistration, flag "executionSummaryReport"])]

def window : Check :=
  record "WindowClientCapabilities"
    [flag "workDoneProgress",
     optional "showMessage"
       (record "ShowMessageRequestClientCapabilities"
         [optional "messageActionItem"
           (record "MessageActionItemCapabilities" [flag "additionalPropertiesSupport"])]),
     optional "showDocument"
       (record "ShowDocumentClientCapabilities" [required "support" bool])]

def general : Check :=
  record "GeneralClientCapabilities"
    [optional "regularExpressions"
       (record "RegularExpressionsClientCapabilities"
         [required "engine" string, optional "version" string]),
     optional "markdown"
       (record "MarkdownClientCapabilities"
         [required "parser" string, optional "version" string,
          optional "allowedTags" (list string)]),
     optional "staleRequestSupport"
       (record "StaleRequestSupportClientCapabilities"
         [required "cancel" bool, required "retryOnContentModified" (list string)]),
     optional "positionEncodings" (list string)]

def client : Check :=
  record "ClientCapabilities"
    [optional "workspace" workspace,
     optional "textDocument" textDocument,
     optional "notebookDocument" notebookDocument,
     optional "window" window,
     optional "general" general,
     optional "experimental" any]

end SyntaxPanel.Capabilities
