import Karabiner.Params

set_option autoImplicit false

/- The key codes, consumer key codes and buttons that the output side treats by name. The
values are again those of keycode/data/*.data. -/
namespace Karabiner

namespace KeyCode

def BACKSLASH : KeyCode := ⟨0x2a⟩
def DELETE : KeyCode := ⟨0x33⟩
def FORWARD_DELETE : KeyCode := ⟨0x75⟩
def RETURN : KeyCode := ⟨0x24⟩
def ENTER : KeyCode := ⟨0x4c⟩
def CURSOR_UP : KeyCode := ⟨0x7e⟩
def CURSOR_DOWN : KeyCode := ⟨0x7d⟩
def CURSOR_LEFT : KeyCode := ⟨0x7b⟩
def CURSOR_RIGHT : KeyCode := ⟨0x7c⟩
def PAGEUP : KeyCode := ⟨0x74⟩
def PAGEDOWN : KeyCode := ⟨0x79⟩
def HOME : KeyCode := ⟨0x73⟩
def END : KeyCode := ⟨0x77⟩
def JIS_EISUU : KeyCode := ⟨0x66⟩
def JIS_KANA : KeyCode := ⟨0x68⟩
def JIS_YEN : KeyCode := ⟨0x5d⟩
def KEYPAD_0 : KeyCode := ⟨0x52⟩
def KEYPAD_1 : KeyCode := ⟨0x53⟩
def KEYPAD_2 : KeyCode := ⟨0x54⟩
def KEYPAD_3 : KeyCode := ⟨0x55⟩
def KEYPAD_4 : KeyCode := ⟨0x56⟩
def KEYPAD_5 : KeyCode := ⟨0x57⟩
def KEYPAD_6 : KeyCode := ⟨0x58⟩
def KEYPAD_7 : KeyCode := ⟨0x59⟩
def KEYPAD_8 : KeyCode := ⟨0x5b⟩
def KEYPAD_9 : KeyCode := ⟨0x5c⟩
def KEYPAD_DOT : KeyCode := ⟨0x41⟩
def KEYPAD_MULTIPLY : KeyCode := ⟨0x43⟩
def KEYPAD_PLUS : KeyCode := ⟨0x45⟩
def KEYPAD_SLASH : KeyCode := ⟨0x4b⟩
def KEYPAD_MINUS : KeyCode := ⟨0x4e⟩
def KEYPAD_EQUAL : KeyCode := ⟨0x51⟩

def VK_WAIT_10MS : KeyCode := virtual 0x3
def VK_WAIT_50MS : KeyCode := virtual 0x4
def VK_WAIT_100MS : KeyCode := virtual 0x5
def VK_LOCK_ALL_FORCE_OFF : KeyCode := virtual 0x24
def VK_NEGATIVE_LOCK_ALL_FORCE_OFF : KeyCode := virtual 0x43
def VK_STICKY_ACTIVE_MODIFIERS_TOGGLE : KeyCode := virtual 0x62
def VK_STICKY_ACTIVE_MODIFIERS_FORCE_ON : KeyCode := virtual 0x63
def VK_STICKY_ACTIVE_MODIFIERS_FORCE_OFF : KeyCode := virtual 0x64
def VK_STICKY_ALL_FORCE_OFF : KeyCode := virtual 0x65
def VK_LAZY_COMMAND_L : KeyCode := virtual 0x66
def VK_LAZY_COMMAND_R : KeyCode := virtual 0x67
def VK_LAZY_CONTROL_L : KeyCode := virtual 0x68
def VK_LAZY_CONTROL_R : KeyCode := virtual 0x69
def VK_LAZY_FN : KeyCode := virtual 0x6a
def VK_LAZY_OPTION_L : KeyCode := virtual 0x6b
def VK_LAZY_OPTION_R : KeyCode := virtual 0x6c
def VK_LAZY_SHIFT_L : KeyCode := virtual 0x6d
def VK_LAZY_SHIFT_R : KeyCode := virtual 0x6e
def VK_PARTIAL_KEYDOWN : KeyCode := virtual 0x6f
def VK_PARTIAL_KEYUP : KeyCode := virtual 0x70
def VK_CONSUMERKEY_BRIGHTNESS_DOWN : KeyCode := virtual 0x71
def VK_CONSUMERKEY_BRIGHTNESS_UP : KeyCode := virtual 0x72
def VK_CONSUMERKEY_KEYBOARDLIGHT_LOW : KeyCode := virtual 0x73
def VK_CONSUMERKEY_KEYBOARDLIGHT_HIGH : KeyCode := virtual 0x74
def VK_CONSUMERKEY_MUSIC_PREV : KeyCode := virtual 0x75
def VK_CONSUMERKEY_MUSIC_PLAY : KeyCode := virtual 0x76
def VK_CONSUMERKEY_MUSIC_NEXT : KeyCode := virtual 0x77
def VK_CONSUMERKEY_VOLUME_MUTE : KeyCode := virtual 0x78
def VK_CONSUMERKEY_VOLUME_DOWN : KeyCode := virtual 0x79
def VK_CONSUMERKEY_VOLUME_UP : KeyCode := virtual 0x7a
def VK_CONSUMERKEY_EJECT : KeyCode := virtual 0x7b
def VK_CONSUMERKEY_POWER : KeyCode := virtual 0x7c
def VK_MOUSEKEY_UP : KeyCode := virtual 0x7d
def VK_MOUSEKEY_DOWN : KeyCode := virtual 0x7e
def VK_MOUSEKEY_LEFT : KeyCode := virtual 0x7f
def VK_MOUSEKEY_RIGHT : KeyCode := virtual 0x80
def VK_MOUSEKEY_DIAGONAL_NE : KeyCode := virtual 0x81
def VK_MOUSEKEY_DIAGONAL_NW : KeyCode := virtual 0x82
def VK_MOUSEKEY_DIAGONAL_SE : KeyCode := virtual 0x83
def VK_MOUSEKEY_DIAGONAL_SW : KeyCode := virtual 0x84
def VK_MOUSEKEY_SCROLL_UP : KeyCode := virtual 0x85
def VK_MOUSEKEY_SCROLL_DOWN : KeyCode := virtual 0x86
def VK_MOUSEKEY_SCROLL_LEFT : KeyCode := virtual 0x87
def VK_MOUSEKEY_SCROLL_RIGHT : KeyCode := virtual 0x88
def VK_MOUSEKEY_HIGHSPEED : KeyCode := virtual 0x89
def VK_MOUSEKEY_FIXED_DISTANCE_UP : KeyCode := virtual 0x8a
def VK_MOUSEKEY_FIXED_DISTANCE_DOWN : KeyCode := virtual 0x8b
def VK_MOUSEKEY_FIXED_DISTANCE_LEFT : KeyCode := virtual 0x8c
def VK_MOUSEKEY_FIXED_DISTANCE_RIGHT : KeyCode := virtual 0x8d
def VK_MOUSEKEY_FIXED_DISTANCE_SCROLL_UP : KeyCode := virtual 0x8e
def VK_MOUSEKEY_FIXED_DISTANCE_SCROLL_DOWN : KeyCode := virtual 0x8f
def VK_MOUSEKEY_FIXED_DISTANCE_SCROLL_LEFT : KeyCode := virtual 0x90
def VK_MOUSEKEY_FIXED_DISTANCE_SCROLL_RIGHT : KeyCode := virtual 0x91
def VK_MOUSEKEY_BUTTON_LEFT : KeyCode := virtual 0x92
def VK_MOUSEKEY_BUTTON_MIDDLE : KeyCode := virtual 0x93
def VK_MOUSEKEY_BUTTON_RIGHT : KeyCode := virtual 0x94
def VK_MOUSEKEY_BUTTON_BUTTON4 : KeyCode := virtual 0x95
def VK_MOUSEKEY_BUTTON_BUTTON5 : KeyCode := virtual 0x96
def VK_MOUSEKEY_BUTTON_BUTTON6 : KeyCode := virtual 0x97
def VK_MOUSEKEY_BUTTON_BUTTON7 : KeyCode := virtual 0x98
def VK_MOUSEKEY_BUTTON_BUTTON8 : KeyCode := virtual 0x99
def VK_MOUSEKEY_BUTTON_BUTTON9 : KeyCode := virtual 0x9a
def VK_MOUSEKEY_BUTTON_BUTTON10 : KeyCode := virtual 0x9b
def VK_MOUSEKEY_BUTTON_BUTTON11 : KeyCode := virtual 0x9c
def VK_MOUSEKEY_BUTTON_BUTTON12 : KeyCode := virtual 0x9d
def VK_MOUSEKEY_BUTTON_BUTTON13 : KeyCode := virtual 0x9e
def VK_MOUSEKEY_BUTTON_BUTTON14 : KeyCode := virtual 0x9f
def VK_MOUSEKEY_BUTTON_BUTTON15 : KeyCode := virtual 0xa0
def VK_MOUSEKEY_BUTTON_BUTTON16 : KeyCode := virtual 0xa1
def VK_MOUSEKEY_LOCK_BUTTON_LEFT : KeyCode := virtual 0xa2
def VK_MOUSEKEY_LOCK_BUTTON_MIDDLE : KeyCode := virtual 0xa3
def VK_MOUSEKEY_LOCK_BUTTON_RIGHT : KeyCode := virtual 0xa4
def VK_MOUSEKEY_LOCK_BUTTON_BUTTON4 : KeyCode := virtual 0xa5
def VK_MOUSEKEY_LOCK_BUTTON_BUTTON5 : KeyCode := virtual 0xa6
def VK_MOUSEKEY_LOCK_BUTTON_BUTTON6 : KeyCode := virtual 0xa7
def VK_MOUSEKEY_LOCK_BUTTON_BUTTON7 : KeyCode := virtual 0xa8
def VK_MOUSEKEY_LOCK_BUTTON_BUTTON8 : KeyCode := virtual 0xa9
def VK_MOUSEKEY_LOCK_BUTTON_BUTTON9 : KeyCode := virtual 0xaa
def VK_MOUSEKEY_LOCK_BUTTON_BUTTON10 : KeyCode := virtual 0xab
def VK_MOUSEKEY_LOCK_BUTTON_BUTTON11 : KeyCode := virtual 0xac
def VK_MOUSEKEY_LOCK_BUTTON_BUTTON12 : KeyCode := virtual 0xad
def VK_MOUSEKEY_LOCK_BUTTON_BUTTON13 : KeyCode := virtual 0xae
def VK_MOUSEKEY_LOCK_BUTTON_BUTTON14 : KeyCode := virtual 0xaf
def VK_MOUSEKEY_LOCK_BUTTON_BUTTON15 : KeyCode := virtual 0xb0
def VK_MOUSEKEY_LOCK_BUTTON_BUTTON16 : KeyCode := virtual 0xb1
def VK_MOUSEKEY_LOCK_BUTTON_ALL_FORCE_OFF : KeyCode := virtual 0xb2
def VK_IOHIKEYBOARD_TOGGLE_NUMLOCK : KeyCode := virtual 0xbf
def VK_KEYTOKEY_DELAYED_ACTION_DROP_EVENT : KeyCode := virtual 0xc0
def VK_JIS_TOGGLE_EISUU_KANA : KeyCode := virtual 0xc1
def VK_JIS_BACKSLASH : KeyCode := virtual 0xc2
def VK_JIS_YEN : KeyCode := virtual 0xc3

end KeyCode

namespace ConsumerKeyCode

def BRIGHTNESS_DOWN : ConsumerKeyCode := ⟨0x3⟩
def BRIGHTNESS_UP : ConsumerKeyCode := ⟨0x2⟩
def KEYBOARDLIGHT_LOW : ConsumerKeyCode := ⟨0x16⟩
def KEYBOARDLIGHT_HIGH : ConsumerKeyCode := ⟨0x15⟩
def MUSIC_PREV : ConsumerKeyCode := ⟨0x14⟩
def MUSIC_PLAY : ConsumerKeyCode := ⟨0x10⟩
def MUSIC_NEXT : ConsumerKeyCode := ⟨0x13⟩
def VOLUME_MUTE : ConsumerKeyCode := ⟨0x7⟩
def VOLUME_DOWN : ConsumerKeyCode := ⟨0x1⟩
def VOLUME_UP : ConsumerKeyCode := ⟨0x0⟩
def EJECT : ConsumerKeyCode := ⟨0xe⟩
def POWER : ConsumerKeyCode := ⟨0x6⟩
def VK_PSEUDO_KEY : ConsumerKeyCode := ⟨0x10000001⟩
def VK_NONE : ConsumerKeyCode := ⟨0x10000002⟩

def isRepeatable (key : ConsumerKeyCode) : Bool :=
  key ∈ [BRIGHTNESS_DOWN, BRIGHTNESS_UP, KEYBOARDLIGHT_LOW, KEYBOARDLIGHT_HIGH, MUSIC_PREV,
    MUSIC_NEXT, VOLUME_DOWN, VOLUME_UP]

end ConsumerKeyCode

namespace PointingButton

def RIGHT : PointingButton := ⟨0x1⟩
def MIDDLE : PointingButton := ⟨0x2⟩
def LEFT : PointingButton := ⟨0x4⟩
def BUTTON4 : PointingButton := ⟨0x8⟩
def BUTTON5 : PointingButton := ⟨0x10⟩
def BUTTON6 : PointingButton := ⟨0x20⟩
def BUTTON7 : PointingButton := ⟨0x40⟩
def BUTTON8 : PointingButton := ⟨0x80⟩
def BUTTON9 : PointingButton := ⟨0x100⟩
def BUTTON10 : PointingButton := ⟨0x200⟩
def BUTTON11 : PointingButton := ⟨0x400⟩
def BUTTON12 : PointingButton := ⟨0x800⟩
def BUTTON13 : PointingButton := ⟨0x1000⟩
def BUTTON14 : PointingButton := ⟨0x2000⟩
def BUTTON15 : PointingButton := ⟨0x4000⟩
def BUTTON16 : PointingButton := ⟨0x8000⟩

end PointingButton

namespace KeyboardType

def MACBOOK : KeyboardType := ⟨37⟩
def JIS_MACBOOK_2008 : KeyboardType := ⟨45⟩

end KeyboardType

end Karabiner
