import BlockScribe.Signature

/-! # The palette

The signatures that are known without any extension: the core palette of motion, looks, sound,
events, control, sensing, operators and data, and the two extensions whose blocks come with it,
pen and music.
-/

namespace BlockScribe

namespace Palette

/-- A plain call. -/
def call (opcode : String) (slots : List String) : String × Signature :=
  (opcode, ⟨slots, .plain⟩)

/-- The start of a script. -/
def hat (opcode : String) (slots : List String) : String × Signature := (opcode, ⟨slots, .hat⟩)

/-- A construct with bodies. -/
def branch (opcode : String) (slots sockets : List String) : String × Signature :=
  (opcode, ⟨slots, .branch sockets⟩)

/-- Moving and turning. -/
def motion : List (String × Signature) := [
  call "motion_movesteps" ["STEPS"],
  call "motion_turnright" ["DEGREES"],
  call "motion_turnleft" ["DEGREES"],
  call "motion_goto" ["TO"],
  call "motion_gotoxy" ["X", "Y"],
  call "motion_glideto" ["SECS", "TO"],
  call "motion_glidesecstoxy" ["SECS", "X", "Y"],
  call "motion_pointindirection" ["DIRECTION"],
  call "motion_pointtowards" ["TOWARDS"],
  call "motion_changexby" ["DX"],
  call "motion_setx" ["X"],
  call "motion_changeyby" ["DY"],
  call "motion_sety" ["Y"],
  call "motion_ifonedgebounce" [],
  call "motion_setrotationstyle" ["STYLE"],
  call "motion_xposition" [],
  call "motion_yposition" [],
  call "motion_direction" []]

/-- Speech, costumes, size and effects. -/
def looks : List (String × Signature) := [
  call "looks_sayforsecs" ["MESSAGE", "SECS"],
  call "looks_say" ["MESSAGE"],
  call "looks_thinkforsecs" ["MESSAGE", "SECS"],
  call "looks_think" ["MESSAGE"],
  call "looks_switchcostumeto" ["COSTUME"],
  call "looks_nextcostume" [],
  call "looks_switchbackdropto" ["BACKDROP"],
  call "looks_switchbackdroptoandwait" ["BACKDROP"],
  call "looks_nextbackdrop" [],
  call "looks_changesizeby" ["CHANGE"],
  call "looks_setsizeto" ["SIZE"],
  call "looks_changeeffectby" ["EFFECT", "CHANGE"],
  call "looks_seteffectto" ["EFFECT", "VALUE"],
  call "looks_cleargraphiceffects" [],
  call "looks_show" [],
  call "looks_hide" [],
  call "looks_gotofrontback" ["FRONT_BACK"],
  call "looks_goforwardbackwardlayers" ["FORWARD_BACKWARD", "NUM"],
  call "looks_costumenumbername" ["NUMBER_NAME"],
  call "looks_backdropnumbername" ["NUMBER_NAME"],
  call "looks_size" []]

/-- Playing sounds. -/
def sound : List (String × Signature) := [
  call "sound_playuntildone" ["SOUND_MENU"],
  call "sound_play" ["SOUND_MENU"],
  call "sound_stopallsounds" [],
  call "sound_changeeffectby" ["EFFECT", "VALUE"],
  call "sound_seteffectto" ["EFFECT", "VALUE"],
  call "sound_cleareffects" [],
  call "sound_changevolumeby" ["VOLUME"],
  call "sound_setvolumeto" ["VOLUME"],
  call "sound_volume" []]

/-- What starts scripts, and broadcasts. -/
def events : List (String × Signature) := [
  hat "event_whenflagclicked" [],
  hat "event_whenkeypressed" ["KEY_OPTION"],
  hat "event_whenthisspriteclicked" [],
  hat "event_whenstageclicked" [],
  hat "event_whenbackdropswitchesto" ["BACKDROP"],
  hat "event_whengreaterthan" ["WHENGREATERTHANMENU", "VALUE"],
  hat "event_whenbroadcastreceived" ["BROADCAST_OPTION"],
  hat "event_whentouchingobject" ["TOUCHINGOBJECTMENU"],
  call "event_broadcast" ["BROADCAST_INPUT"],
  call "event_broadcastandwait" ["BROADCAST_INPUT"]]

/-- Loops, conditions and clones. -/
def control : List (String × Signature) := [
  call "control_wait" ["DURATION"],
  branch "control_repeat" ["TIMES"] ["SUBSTACK"],
  branch "control_forever" [] ["SUBSTACK"],
  branch "control_if" ["CONDITION"] ["SUBSTACK"],
  branch "control_if_else" ["CONDITION"] ["SUBSTACK", "SUBSTACK2"],
  call "control_wait_until" ["CONDITION"],
  branch "control_repeat_until" ["CONDITION"] ["SUBSTACK"],
  branch "control_while" ["CONDITION"] ["SUBSTACK"],
  branch "control_for_each" ["VARIABLE", "VALUE"] ["SUBSTACK"],
  branch "control_all_at_once" [] ["SUBSTACK"],
  call "control_stop" ["STOP_OPTION"],
  hat "control_start_as_clone" [],
  call "control_create_clone_of" ["CLONE_OPTION"],
  call "control_delete_this_clone" [],
  call "control_get_counter" [],
  call "control_incr_counter" [],
  call "control_clear_counter" []]

/-- Asking about the surroundings. -/
def sensing : List (String × Signature) := [
  call "sensing_touchingobject" ["TOUCHINGOBJECTMENU"],
  call "sensing_touchingcolor" ["COLOR"],
  call "sensing_coloristouchingcolor" ["COLOR", "COLOR2"],
  call "sensing_distanceto" ["DISTANCETOMENU"],
  call "sensing_askandwait" ["QUESTION"],
  call "sensing_answer" [],
  call "sensing_keypressed" ["KEY_OPTION"],
  call "sensing_mousedown" [],
  call "sensing_mousex" [],
  call "sensing_mousey" [],
  call "sensing_setdragmode" ["DRAG_MODE"],
  call "sensing_loudness" [],
  call "sensing_loud" [],
  call "sensing_timer" [],
  call "sensing_resettimer" [],
  call "sensing_of" ["PROPERTY", "OBJECT"],
  call "sensing_current" ["CURRENTMENU"],
  call "sensing_dayssince2000" [],
  call "sensing_username" [],
  call "sensing_userid" []]

/-- Arithmetic, comparison and text. -/
def operators : List (String × Signature) := [
  call "operator_add" ["NUM1", "NUM2"],
  call "operator_subtract" ["NUM1", "NUM2"],
  call "operator_multiply" ["NUM1", "NUM2"],
  call "operator_divide" ["NUM1", "NUM2"],
  call "operator_mod" ["NUM1", "NUM2"],
  call "operator_random" ["FROM", "TO"],
  call "operator_gt" ["OPERAND1", "OPERAND2"],
  call "operator_lt" ["OPERAND1", "OPERAND2"],
  call "operator_equals" ["OPERAND1", "OPERAND2"],
  call "operator_and" ["OPERAND1", "OPERAND2"],
  call "operator_or" ["OPERAND1", "OPERAND2"],
  call "operator_not" ["OPERAND"],
  call "operator_join" ["STRING1", "STRING2"],
  call "operator_letter_of" ["LETTER", "STRING"],
  call "operator_length" ["STRING"],
  call "operator_contains" ["STRING1", "STRING2"],
  call "operator_round" ["NUM"],
  call "operator_mathop" ["OPERATOR", "NUM"]]

/-- Variables and lists. -/
def data : List (String × Signature) := [
  call "data_variable" ["VARIABLE"],
  call "data_setvariableto" ["VARIABLE", "VALUE"],
  call "data_changevariableby" ["VARIABLE", "VALUE"],
  call "data_showvariable" ["VARIABLE"],
  call "data_hidevariable" ["VARIABLE"],
  call "data_listcontents" ["LIST"],
  call "data_addtolist" ["ITEM", "LIST"],
  call "data_deleteoflist" ["INDEX", "LIST"],
  call "data_deletealloflist" ["LIST"],
  call "data_insertatlist" ["ITEM", "INDEX", "LIST"],
  call "data_replaceitemoflist" ["INDEX", "LIST", "ITEM"],
  call "data_itemoflist" ["INDEX", "LIST"],
  call "data_itemnumoflist" ["ITEM", "LIST"],
  call "data_lengthoflist" ["LIST"],
  call "data_listcontainsitem" ["LIST", "ITEM"],
  call "data_showlist" ["LIST"],
  call "data_hidelist" ["LIST"]]

/-- The pen extension. -/
def pen : List (String × Signature) := [
  call "pen_clear" [],
  call "pen_stamp" [],
  call "pen_penDown" [],
  call "pen_penUp" [],
  call "pen_setPenColorToColor" ["COLOR"],
  call "pen_changePenColorParamBy" ["COLOR_PARAM", "VALUE"],
  call "pen_setPenColorParamTo" ["COLOR_PARAM", "VALUE"],
  call "pen_changePenSizeBy" ["SIZE"],
  call "pen_setPenSizeTo" ["SIZE"],
  call "pen_setPenShadeToNumber" ["SHADE"],
  call "pen_changePenShadeBy" ["SHADE"],
  call "pen_setPenHueToNumber" ["HUE"],
  call "pen_changePenHueBy" ["HUE"]]

/-- The music extension. -/
def music : List (String × Signature) := [
  call "music_playDrumForBeats" ["DRUM", "BEATS"],
  call "music_restForBeats" ["BEATS"],
  call "music_playNoteForBeats" ["NOTE", "BEATS"],
  call "music_setInstrument" ["INSTRUMENT"],
  call "music_setTempo" ["TEMPO"],
  call "music_changeTempo" ["TEMPO"],
  call "music_getTempo" []]

/-- All signatures of the palette, in order. -/
def entries : List (String × Signature) :=
  motion ++ looks ++ sound ++ events ++ control ++ sensing ++ operators ++ data ++ pen ++ music

end Palette

/-- The table of the palette. -/
def SignatureTable.palette : SignatureTable := Dict.ofList Palette.entries

/-- The extensions whose blocks are in the palette. -/
def bundledExtensions : List String := ["pen", "music"]

end BlockScribe
